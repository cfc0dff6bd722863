import CommandMesh.Json.Parser
import CommandMesh.Proofs.Json.Lexing

/-!
# `CommandMesh.Proofs.Json.Parsing`: written values are read back

The parser is a machine that reads one token at a time and keeps the arrays and objects that
are open in a list. From a state that waits for a value, the tokens of a value lead to that value,
in whatever arrays and objects it stands (`Reads`). This is proved by induction over values, and
within an array or object by induction over what it holds, with what was read before in the open
frame. There is no limit to how deep values may be nested.

So a value is read back from every spelling of its tokens, with whatever white space between them:
the lexer gives the tokens, whatever their spelling is, and the parser gives the value. An object
keeps its members in their order, repeated names included, so that what is read back is the value
itself and not only one with the same meaning. Whether a name may be repeated is decided by those
who read typed values (`CommandMesh.Proofs.Wire.Overlay`).

What is written as bytes has to be one that can be written. Of the numbers in a value only integers
are written, and of its texts only those that are Unicode; `Json.Written` says that there are no
others. Nothing is assumed about a value that is read from a spelling.

The theorems:

* `reads`: from a state that waits for a value, its tokens lead to the value.
* `isChain_tokens`: no two tokens of a value are numbers side by side, as the lexer needs it.
* `parse?_spells`, `parse?_render`: a value is read back from every spelling of its tokens, and so
  from its bytes.
-/

set_option autoImplicit false

namespace CommandMesh.Json

/-- Induction over values: arrays and objects hold values. -/
theorem induction {motive : Json → Prop} (null : motive .null) (bool : ∀ b, motive (.bool b))
    (number : ∀ n, motive (.number n)) (text : ∀ t, motive (.text t))
    (array : ∀ items, (∀ v ∈ items, motive v) → motive (.array items))
    (object : ∀ members, (∀ m ∈ members, motive m.2) → motive (.object members)) :
    ∀ v, motive v
  | .null => null
  | .bool b => bool b
  | .number n => number n
  | .text t => text t
  | .array items =>
    array items fun v _ => induction null bool number text array object v
  | .object members =>
    object members fun m _ => induction null bool number text array object m.2
decreasing_by
  -- The values stand in a list, so that they are smaller is said by its members.
  · have hlt : sizeOf v < sizeOf items := List.sizeOf_lt_of_mem ‹v ∈ items›
    have harray : sizeOf (Json.array items) = 1 + sizeOf items := by simp
    omega
  · have hlt : sizeOf m < sizeOf members := List.sizeOf_lt_of_mem ‹m ∈ members›
    have hpair : sizeOf m = 1 + sizeOf m.1 + sizeOf m.2 := by cases m; rfl
    have hobject : sizeOf (Json.object members) = 1 + sizeOf members := by simp
    omega

/-! ### The parser on the tokens of a value -/

namespace State

/-- Tokens in two rows are read one row after the other. -/
theorem run_append (s : State) (ts ts' : List Token) :
    s.run (ts ++ ts') = (s.run ts).bind (·.run ts') := by
  induction ts generalizing s with
  | nil => rfl
  | cons t ts ih =>
    show (s.step t).bind (fun s' => run s' (ts ++ ts')) =
      ((s.step t).bind fun s' => run s' ts).bind _
    cases s.step t with
    | none => rfl
    | some s' => exact ih s'

/-- A row of tokens is read on from where its first token leads. -/
theorem run_cons_of_step {s r : State} {t : Token} (h : s.step t = some r) (ts : List Token) :
    s.run (t :: ts) = r.run ts := by
  rw [run, h, Option.bind_some]

end State

/-- The tokens of the value lead to it from where a value may stand. -/
structure Reads (v : Json) : Prop where
  /-- They are not taken for the end of an array. -/
  head : ∃ t ts, v.tokens = t :: ts ∧ t ≠ .rightBracket
  run : ∀ around, (State.value around).run v.tokens = some (.complete around v)

namespace Reads

/-- A value that is one token. -/
theorem of_token {v : Json} {t : Token} (htokens : v.tokens = [t]) (hhead : t ≠ .rightBracket)
    (hstep : ∀ around, State.openValue around t = some (.complete around v)) : Reads v where
  head := ⟨t, [], htokens, hhead⟩
  run := by
    intro around
    have hrun := State.run_cons_of_step (s := .value around) (hstep around) []
    rw [htokens, hrun]
    rfl

/-- The items of an array are read up to its end. -/
theorem run_items {v : Json} {vs : List Json} (h : ∀ x ∈ v :: vs, Reads x) (outer : List Frame)
    (done : List Json) :
    (State.value (.array done :: outer)).run (tokens.itemTokens (v :: vs) ++ [.rightBracket]) =
      some (.complete outer (.array (done.reverse ++ v :: vs))) := by
  -- The induction is on the items after the first, with those that were read in the open frame.
  induction vs generalizing v done with
  | nil =>
    have hv := (h v List.mem_cons_self).run (.array done :: outer)
    rw [tokens.itemTokens, State.run_append, hv, Option.bind_some]
    show some _ = _
    rw [List.reverse_cons]
  | cons v' vs ih =>
    have hv := (h v List.mem_cons_self).run (.array done :: outer)
    -- After the comma the item is done, and the parser waits for the next one.
    have hrest := ih (fun x hx => h x (List.mem_cons_of_mem v hx)) (v :: done)
    rw [tokens.itemTokens, List.append_assoc, State.run_append, hv, Option.bind_some,
      List.cons_append, State.run_cons_of_step (r := .value (.array (v :: done) :: outer)) rfl,
      hrest, List.reverse_cons, List.append_assoc]
    · rfl
    · simp

/-- The members of an object are read up to its end. -/
theorem run_members {m : Option String × Json} {ms : List (Option String × Json)}
    (h : ∀ x ∈ m :: ms, Reads x.2) (outer : List Frame) (done : List (Option String × Json)) :
    (State.name outer done).run (tokens.memberTokens (m :: ms) ++ [.rightBrace]) =
      some (.complete outer (.object (done.reverse ++ m :: ms))) := by
  -- As for the items of an array, with a name and a colon before each value.
  induction ms generalizing m done with
  | nil =>
    have hv := (h m List.mem_cons_self).run (.object done m.1 :: outer)
    rw [tokens.memberTokens, List.cons_append, List.cons_append,
      State.run_cons_of_step (r := .colon outer done m.1) rfl,
      State.run_cons_of_step (r := .value (.object done m.1 :: outer)) rfl, State.run_append, hv,
      Option.bind_some]
    show some _ = _
    rw [List.reverse_cons]
  | cons m' ms ih =>
    have hv := (h m List.mem_cons_self).run (.object done m.1 :: outer)
    -- A member has a name and a colon before its value, and a comma after it.
    have hrest := ih (fun x hx => h x (List.mem_cons_of_mem m hx)) (m :: done)
    rw [tokens.memberTokens, List.cons_append, List.cons_append,
      State.run_cons_of_step (r := .colon outer done m.1) rfl,
      State.run_cons_of_step (r := .value (.object done m.1 :: outer)) rfl, List.append_assoc,
      State.run_append, hv, Option.bind_some, List.cons_append,
      State.run_cons_of_step (r := .name outer (m :: done)) rfl, hrest, List.reverse_cons,
      List.append_assoc]
    · rfl
    · simp

/-- An array is read back if its items are. -/
theorem array {items : List Json} (h : ∀ v ∈ items, Reads v) : Reads (.array items) where
  head := ⟨_, _, rfl, by simp⟩
  run := by
    intro around
    show (State.arrayStart around).run (tokens.itemTokens items ++ [.rightBracket]) = _
    cases items with
    | nil => rfl
    | cons v vs =>
      have hitems := run_items h around []
      obtain ⟨t, ts, htokens, hhead⟩ := (h v List.mem_cons_self).head
      -- The first item is read like any other, for it does not look like the end of the array.
      obtain ⟨ts', hts'⟩ : ∃ ts', tokens.itemTokens (v :: vs) = t :: ts' := by
        cases vs with
        | nil => exact ⟨ts, by rw [tokens.itemTokens, htokens]⟩
        | cons v' vs =>
          rw [tokens.itemTokens, htokens]
          · exact ⟨_, rfl⟩
          · simp
      rw [hts', List.cons_append] at hitems ⊢
      have hstep : (State.arrayStart around).step t =
          (State.value (.array [] :: around)).step t := by
        cases t with
        | rightBracket => exact absurd rfl hhead
        | _ => rfl
      rw [State.run, hstep]
      exact hitems

/-- An object is read back if the values of its members are. -/
theorem object {members : List (Option String × Json)} (h : ∀ m ∈ members, Reads m.2) :
    Reads (.object members) where
  head := ⟨_, _, rfl, by simp⟩
  run := by
    intro around
    show (State.objectStart around).run (tokens.memberTokens members ++ [.rightBrace]) = _
    cases members with
    | nil => rfl
    | cons m ms =>
      have hmembers := run_members h around []
      obtain ⟨ts, hts⟩ : ∃ ts, tokens.memberTokens (m :: ms) = .text m.1 :: ts := by
        cases ms with
        | nil => exact ⟨_, by rw [tokens.memberTokens]⟩
        | cons m' ms =>
          rw [tokens.memberTokens]
          · exact ⟨_, rfl⟩
          · simp
      rw [hts, List.cons_append] at hmembers ⊢
      exact hmembers

end Reads

/-- Every value is read back from its tokens. -/
theorem reads (v : Json) : Reads v := by
  induction v using induction with
  | null | bool b | number n | text t =>
    exact .of_token (by rw [tokens]) (by simp) fun _ => rfl
  | array items ih => exact .array ih
  | object members ih => exact .object ih

/-- The tokens of a value are those of no other value, and nothing is left open after them. -/
theorem ofTokens?_tokens (v : Json) : ofTokens? v.tokens = some v := by
  rw [ofTokens?, (reads v).run]
  rfl

/-! ### The bytes of a value -/

/-- Nothing touches a token that is no number. -/
theorem isChain_append_of_isNumber {ts ts' : List Token}
    (h : ts.IsChain fun t t' => t.mayTouch t') (h' : ts'.IsChain fun t t' => t.mayTouch t')
    (hhead : ∀ t ∈ ts'.head?, t.isNumber = false) :
    (ts ++ ts').IsChain fun t t' => t.mayTouch t' := by
  refine List.isChain_append.mpr ⟨h, h', fun t _ t' ht' => ?_⟩
  rw [Token.mayTouch, hhead t' ht', Bool.and_false, Bool.not_false]

/-- A token that is no number may stand before any token. -/
theorem isChain_cons_of_isNumber {t : Token} {ts : List Token} (h : t.isNumber = false)
    (hts : ts.IsChain fun t t' => t.mayTouch t') :
    (t :: ts).IsChain fun t t' => t.mayTouch t' := by
  cases ts with
  | nil => exact List.isChain_singleton t
  | cons t' ts =>
    refine List.isChain_cons_cons.mpr ⟨?_, hts⟩
    rw [Token.mayTouch, h, Bool.false_and, Bool.not_false]

/-- The commas keep the numbers in the items of an array apart. -/
theorem isChain_itemTokens {items : List Json}
    (h : ∀ v ∈ items, v.tokens.IsChain fun t t' => t.mayTouch t') :
    (tokens.itemTokens items).IsChain fun t t' => t.mayTouch t' := by
  induction items with
  | nil => exact List.isChain_nil
  | cons v vs ih =>
    have hv := h v List.mem_cons_self
    have hvs := ih fun x hx => h x (List.mem_cons_of_mem v hx)
    cases vs with
    | nil => exact hv
    | cons v' vs =>
      exact isChain_append_of_isNumber hv (isChain_cons_of_isNumber rfl hvs)
        (by simp [Token.isNumber])

/-- The names, colons and commas keep the numbers in the members of an object apart. -/
theorem isChain_memberTokens {members : List (Option String × Json)}
    (h : ∀ m ∈ members, m.2.tokens.IsChain fun t t' => t.mayTouch t') :
    (tokens.memberTokens members).IsChain fun t t' => t.mayTouch t' := by
  induction members with
  | nil => exact List.isChain_nil
  | cons m ms ih =>
    have hm := h m List.mem_cons_self
    have hms := ih fun x hx => h x (List.mem_cons_of_mem m hx)
    cases ms with
    | nil => exact isChain_cons_of_isNumber rfl (isChain_cons_of_isNumber rfl hm)
    | cons m' ms =>
      exact isChain_cons_of_isNumber rfl (isChain_cons_of_isNumber rfl
        (isChain_append_of_isNumber hm (isChain_cons_of_isNumber rfl hms)
          (by simp [Token.isNumber])))

/-- No two tokens of a value are numbers side by side. -/
theorem isChain_tokens (v : Json) : v.tokens.IsChain fun t t' => t.mayTouch t' := by
  induction v using induction with
  | null | bool b | number n | text t => exact List.isChain_singleton _
  -- Brackets and braces stand around what is inside and are no numbers.
  | array items h =>
    exact isChain_cons_of_isNumber rfl (isChain_append_of_isNumber (isChain_itemTokens h)
      (List.isChain_singleton _) (by simp [Token.isNumber]))
  | object members h =>
    exact isChain_cons_of_isNumber rfl (isChain_append_of_isNumber (isChain_memberTokens h)
      (List.isChain_singleton _) (by simp [Token.isNumber]))

/-- Every number in the value is an integer and every text is one. -/
def Written (v : Json) : Prop := ∀ t ∈ v.tokens, t.Written

/-- The items of an array may be written if each of them may, for the commas between them may. -/
theorem written_itemTokens {items : List Json} (h : ∀ v ∈ items, v.Written) :
    ∀ t ∈ tokens.itemTokens items, t.Written := by
  induction items with
  | nil => simp [tokens.itemTokens]
  | cons v vs ih =>
    have hv := h v List.mem_cons_self
    have hvs := ih fun x hx => h x (List.mem_cons_of_mem v hx)
    cases vs with
    | nil => exact hv
    | cons v' vs =>
      intro t ht
      rcases List.mem_append.mp ht with ht | ht
      · exact hv t ht
      · rcases List.mem_cons.mp ht with rfl | ht
        · trivial
        · exact hvs t ht

/-- The members of an object may be written if each name is a text and each value may be written. -/
theorem written_memberTokens {members : List (Option String × Json)}
    (h : ∀ m ∈ members, m.1.isSome ∧ m.2.Written) :
    ∀ t ∈ tokens.memberTokens members, t.Written := by
  induction members with
  | nil => simp [tokens.memberTokens]
  | cons m ms ih =>
    obtain ⟨hname, hm⟩ := h m List.mem_cons_self
    have hms := ih fun x hx => h x (List.mem_cons_of_mem m hx)
    cases ms with
    | nil =>
      intro t ht
      simp only [tokens.memberTokens, List.mem_cons] at ht
      rcases ht with rfl | rfl | ht
      · exact hname
      · trivial
      · exact hm t ht
    | cons m' ms =>
      intro t ht
      simp only [tokens.memberTokens, List.mem_cons, List.mem_append] at ht
      rcases ht with rfl | rfl | ht | rfl | ht
      · exact hname
      · trivial
      · exact hm t ht
      · trivial
      · exact hms t ht

/-- An array of values that may be written may be written. -/
theorem written_array {items : List Json} (h : ∀ v ∈ items, v.Written) :
    (Json.array items).Written := by
  intro t ht
  simp only [tokens, List.mem_cons, List.mem_append, List.not_mem_nil, or_false] at ht
  rcases ht with rfl | ht | rfl
  · trivial
  · exact written_itemTokens h t ht
  · trivial

/-- An object with names that are texts and values that may be written may be written. -/
theorem written_object {members : List (Option String × Json)}
    (h : ∀ m ∈ members, m.1.isSome ∧ m.2.Written) : (Json.object members).Written := by
  intro t ht
  simp only [tokens, List.mem_cons, List.mem_append, List.not_mem_nil, or_false] at ht
  rcases ht with rfl | ht | rfl
  · trivial
  · exact written_memberTokens h t ht
  · trivial

/-- A value is read back from every spelling of its tokens. -/
theorem parse?_spells {v : Json} {bs : List UInt8} (h : Spells v.tokens bs) :
    parse? bs = some v := by
  rw [parse?, lex_spells h (isChain_tokens v), Option.bind_some, ofTokens?_tokens]

/-- A value of integers and texts is read back from its bytes. -/
theorem parse?_render {v : Json} (h : v.Written) : parse? v.render = some v :=
  parse?_spells (spells_flatMap_bytes h)

end CommandMesh.Json
