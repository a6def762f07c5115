import Mathlib.Data.List.Basic
import TypedCalls.Arena.Name

/-!
# Written forms

A name is one clause, or several with a separator between them. A clause is a word, or it says what
a function takes and returns, and for a table how long it is. No value type has a name with a comma,
a round bracket, a slash or a dot in it, so these marks show where the pieces of a written form end.
Square brackets do not: one value type is called `[]`. But nothing that follows the last opening one
has another, and a length is never empty.

Main statement: clauses can be read off from what they are written as.
-/

namespace TypedCalls

/-! ### Texts around a mark -/

section

variable {α : Type} {mark : α} {xs ys rest rest' : List α}

/-- A text can be cut at the first of its marks. -/
theorem append_cons_inj_of_first (hx : mark ∉ xs) (hy : mark ∉ ys)
    (h : xs ++ mark :: rest = ys ++ mark :: rest') : xs = ys ∧ rest = rest' := by
  induction xs generalizing ys with
  | nil =>
    cases ys with
    | nil => exact ⟨rfl, (List.cons.inj h).2⟩
    | cons y ys => exact absurd (List.mem_cons.2 (.inl (List.cons.inj h).1)) hy
  | cons x xs ih =>
    cases ys with
    | nil => exact absurd (List.mem_cons.2 (.inl (List.cons.inj h).1.symm)) hx
    | cons y ys =>
      obtain ⟨rfl, later⟩ := List.cons.inj h
      obtain ⟨rfl, same⟩ :=
        ih (List.not_mem_of_not_mem_cons hx) (List.not_mem_of_not_mem_cons hy) later
      exact ⟨rfl, same⟩

/-- A text can be cut at the last of its marks. -/
theorem append_cons_inj_of_last (hr : mark ∉ rest) (hr' : mark ∉ rest')
    (h : xs ++ mark :: rest = ys ++ mark :: rest') : xs = ys ∧ rest = rest' := by
  have reversed : rest.reverse ++ mark :: xs.reverse = rest'.reverse ++ mark :: ys.reverse := by
    simpa using congrArg List.reverse h
  obtain ⟨hrest, hxs⟩ := append_cons_inj_of_first (by simpa using hr) (by simpa using hr') reversed
  exact ⟨List.reverse_injective hxs, List.reverse_injective hrest⟩

end

/-! ### Texts with a separator between them -/

section

variable {α : Type} {mark : α} {before after : List α}

/-- What is in texts with a separator between them is in the separator or in one of the texts. -/
theorem mem_intercalate {sep : List α} {c : α} {xs : List (List α)}
    (h : c ∈ sep.intercalate xs) : c ∈ sep ∨ ∃ x ∈ xs, c ∈ x := by
  induction xs with
  | nil => cases h
  | cons x xs ih =>
    cases xs with
    | nil => exact .inr ⟨x, List.mem_cons_self, by simpa using h⟩
    | cons y ys =>
      simp only [List.intercalate_cons_cons, List.mem_append] at h
      rcases h with (hx | hsep) | hrest
      · exact .inr ⟨x, List.mem_cons_self, hx⟩
      · exact .inl hsep
      · rcases ih hrest with hsep | ⟨z, hz, hc⟩
        · exact .inl hsep
        · exact .inr ⟨z, List.mem_cons_of_mem x hz, hc⟩

/-- Two texts or more have the mark of the separator between them. -/
theorem mark_mem_intercalate (mark : α) (before after x y : List α) (ys : List (List α)) :
    mark ∈ (before ++ mark :: after).intercalate (x :: y :: ys) := by
  simp [List.intercalate_cons_cons]

/-- Texts can be read off from what they are with a separator between them, if none of them is empty
and none has the mark of the separator. -/
theorem intercalate_injective (hbefore : mark ∉ before) {xs ys : List (List α)}
    (hx : ∀ x ∈ xs, x ≠ [] ∧ mark ∉ x) (hy : ∀ y ∈ ys, y ≠ [] ∧ mark ∉ y)
    (h : (before ++ mark :: after).intercalate xs = (before ++ mark :: after).intercalate ys) :
    xs = ys := by
  induction xs generalizing ys with
  | nil =>
    match ys with
    | [] => rfl
    | [y] => exact absurd (by simpa using h.symm) (hy y List.mem_cons_self).1
    | y :: z :: zs => simp [List.intercalate_cons_cons] at h
  | cons x xs ih =>
    match xs, ys with
    | [], [] => exact absurd (by simpa using h) (hx x List.mem_cons_self).1
    | [], [y] => simpa using h
    | [], y :: z :: zs =>
      have marked := mark_mem_intercalate mark before after y z zs
      rw [← h, List.intercalate_singleton] at marked
      exact absurd marked (hx x List.mem_cons_self).2
    | w :: ws, [] => simp [List.intercalate_cons_cons] at h
    | w :: ws, [y] =>
      have marked := mark_mem_intercalate mark before after x w ws
      rw [h, List.intercalate_singleton] at marked
      exact absurd marked (hy y List.mem_cons_self).2
    | w :: ws, y :: z :: zs =>
      simp only [List.intercalate_cons_cons, List.append_assoc, List.cons_append] at h
      rw [← List.append_assoc, ← List.append_assoc] at h
      obtain ⟨heads, tails⟩ := append_cons_inj_of_first
        (by simp [hbefore, (hx x List.mem_cons_self).2])
        (by simp [hbefore, (hy y List.mem_cons_self).2]) h
      obtain rfl := List.append_cancel_right heads
      have later := ih (fun x hx' => hx x (List.mem_cons_of_mem _ hx'))
        (fun y hy' => hy y (List.mem_cons_of_mem _ hy')) (List.append_cancel_left tails)
      rw [later]

end

/-! ### Names of value types and lengths -/

/-- The marks that show where the pieces of a written form end. -/
def marks : List Char :=
  [',', '(', ')', '/', '.']

namespace Prim

theorem name_ne_empty (p : Prim) : p.name ≠ "" := by
  cases p <;> decide

theorem not_mem_name_of_mark (p : Prim) : ∀ c ∈ marks, c ∉ p.name.toList := by
  simp only [marks, List.forall_mem_cons]
  cases p <;> simp [name]

/-- Of the names of value types, only the shortest has a square bracket. -/
theorem length_name_of_bracket (p : Prim) : '[' ∈ p.name.toList → p.name.toList.length = 2 := by
  cases p <;> decide

end Prim

theorem toList_toString_length (length : UInt32) :
    (toString length).toList = Nat.toDigits 10 length.toNat :=
  Nat.toList_repr

/-- A length is written in digits. -/
theorem not_mem_toString_length (length : UInt32) {c : Char} (hc : c.isDigit = false) :
    c ∉ (toString length).toList := by
  rw [toList_toString_length]
  intro member
  have digit : c.isDigit = true := Nat.isDigit_of_mem_toDigits (by decide) (by decide) member
  rw [hc] at digit
  cases digit

/-- A length can be read off from its digits. -/
theorem toString_length_inj {m n : UInt32} (h : (toString m).toList = (toString n).toList) :
    m = n := by
  rw [toList_toString_length, toList_toString_length] at h
  have values := congrArg (Nat.ofDigitChars 10 · 0) h
  simp only [Nat.ofDigitChars_ten_toDigits] at values
  exact UInt32.toNat_inj.1 values

/-! ### Written functions and tables -/

theorem toList_tableText (length : UInt32) (text : String) :
    (tableText length text).toList =
      text.toList ++ '[' :: ((toString length).toList ++ [']']) := by
  simp [tableText]

theorem toList_functionText (params : List String) (result : String) :
    (functionText params result).toList =
      '(' :: ([',', ' '].intercalate (params.map String.toList) ++
        ')' :: ' ' :: '-' :: '>' :: ' ' :: result.toList) := by
  simp [functionText]

/-- The length of a table of functions is written behind the result of a function. -/
theorem tableText_functionText (length : UInt32) (params : List String) (result : String) :
    tableText length (functionText params result) =
      functionText params (tableText length result) := by
  simp [tableText, functionText, String.append_assoc]

/-- A table and its length can be read off from what they are written as. -/
theorem tableText_inj {m n : UInt32} {r s : String} (h : tableText m r = tableText n s) :
    m = n ∧ r = s := by
  have chars := congrArg String.toList h
  rw [toList_tableText, toList_tableText] at chars
  obtain ⟨texts, lengths⟩ := append_cons_inj_of_last
    (by simp [not_mem_toString_length]) (by simp [not_mem_toString_length]) chars
  have digits := List.append_cancel_right lengths
  exact ⟨toString_length_inj digits, String.toList_inj.1 texts⟩

/-- No value type has the name of a table. -/
theorem name_ne_tableText (p q : Prim) (length : UInt32) : p.name ≠ tableText length q.name := by
  intro same
  have chars := congrArg String.toList same
  rw [toList_tableText] at chars
  have short : p.name.toList.length = 2 := p.length_name_of_bracket (by simp [chars])
  have named : 0 < q.name.toList.length := by
    simpa [List.length_pos_iff] using q.name_ne_empty
  have written : 0 < (toString length).toList.length := by
    rw [toList_toString_length]
    exact Nat.length_toDigits_pos
  have lengths := congrArg List.length chars
  simp only [List.length_append, List.length_cons, List.length_nil] at lengths
  omega

/-- A text that can stand among the parameters of a written function: it is not empty, and has
neither a comma nor a closing bracket. -/
def IsParameterText (text : String) : Prop :=
  text ≠ "" ∧ ',' ∉ text.toList ∧ ')' ∉ text.toList

section

variable {texts : List String}

/-- The parameters of a written function have no closing bracket. -/
theorem closing_not_mem_intercalate (h : ∀ text ∈ texts, IsParameterText text) :
    ')' ∉ [',', ' '].intercalate (texts.map String.toList) := by
  intro member
  rcases mem_intercalate member with sep | ⟨x, hx, closing⟩
  · simp at sep
  · obtain ⟨text, htext, rfl⟩ := List.mem_map.1 hx
    exact (h text htext).2.2 closing

/-- A comma separates the parameters of a written function. -/
theorem comma_separates (h : ∀ text ∈ texts, IsParameterText text) :
    ∀ x ∈ texts.map String.toList, x ≠ [] ∧ ',' ∉ x := by
  intro x hx
  obtain ⟨text, htext, rfl⟩ := List.mem_map.1 hx
  exact ⟨by simpa using (h text htext).1, (h text htext).2.1⟩

end

theorem map_toList_injective : Function.Injective (List.map String.toList) :=
  List.map_injective_iff.2 fun _ _ => String.toList_inj.1

/-- The parameters and what follows the arrow can be read off from a written function. -/
theorem functionText_inj {ps qs : List String} {r s : String}
    (hps : ∀ p ∈ ps, IsParameterText p) (hqs : ∀ q ∈ qs, IsParameterText q)
    (h : functionText ps r = functionText qs s) : ps = qs ∧ r = s := by
  have chars := congrArg String.toList h
  rw [toList_functionText, toList_functionText, List.cons.injEq] at chars
  obtain ⟨params, rest⟩ := append_cons_inj_of_first (closing_not_mem_intercalate hps)
    (closing_not_mem_intercalate hqs) chars.2
  simp only [List.cons.injEq, true_and, String.toList_inj] at rest
  have lists := intercalate_injective List.not_mem_nil (comma_separates hps)
    (comma_separates hqs) params
  exact ⟨map_toList_injective lists, rest⟩

/-! ### Clauses -/

namespace Clause

/-- What a clause says about parameters. -/
inductive Params where
  /-- The parameters one by one. -/
  | listed (params : List Prim)
  /-- Two arguments or more below a bound. -/
  | several (bound : Prim)

/-- What a clause says after the arrow: the result of a function, and the length of a table. -/
structure Tail where
  result : Prim
  length? : Option UInt32

end Clause

/-- What a name says of a type that is no set of overloads. -/
inductive Clause where
  | value (p : Prim)
  | foreign
  | fround
  | arrow (params : Clause.Params) (tail : Clause.Tail)

namespace Clause

/-- The written forms of parameters. -/
def Params.texts : Params → List String
  | listed params => params.map Prim.name
  | several bound => [bound.name, bound.name ++ "..."]

/-- The written form of what stands after the arrow. -/
def Tail.text : Tail → String
  | ⟨result, none⟩ => result.name
  | ⟨result, some length⟩ => tableText length result.name

/-- The written form of a clause. -/
def text : Clause → String
  | value p => p.name
  | foreign => "Function"
  | fround => "fround"
  | arrow params tail => functionText params.texts tail.text

/-! ### Clauses can be read off -/

/-- Of the marks, a written parameter can have the dot only. -/
theorem Params.not_mem_texts (params : Params) {c : Char} (mark : c ∈ marks) (other : c ≠ '.') :
    ∀ text ∈ params.texts, c ∉ text.toList := by
  intro text listed
  cases params with
  | listed ps =>
    obtain ⟨p, -, rfl⟩ := List.mem_map.1 listed
    exact p.not_mem_name_of_mark c mark
  | several bound =>
    have unmarked := bound.not_mem_name_of_mark c mark
    simp only [texts, List.mem_cons, List.not_mem_nil, or_false] at listed
    rcases listed with rfl | rfl
    · exact unmarked
    · simp [unmarked, other]

theorem Params.ne_empty_of_mem_texts (params : Params) : ∀ text ∈ params.texts, text ≠ "" := by
  intro text listed
  cases params with
  | listed ps =>
    obtain ⟨p, -, rfl⟩ := List.mem_map.1 listed
    exact p.name_ne_empty
  | several bound =>
    simp only [texts, List.mem_cons, List.not_mem_nil, or_false] at listed
    rcases listed with rfl | rfl
    · exact bound.name_ne_empty
    · simp

theorem Params.isParameterText (params : Params) :
    ∀ text ∈ params.texts, IsParameterText text := fun text listed =>
  ⟨params.ne_empty_of_mem_texts text listed,
    params.not_mem_texts (by simp [marks]) (by decide) text listed,
    params.not_mem_texts (by simp [marks]) (by decide) text listed⟩

/-- What stands after the arrow has none of the marks. -/
theorem Tail.not_mem_text (tail : Tail) {c : Char} (mark : c ∈ marks) : c ∉ tail.text.toList := by
  obtain ⟨r, length?⟩ := tail
  have unmarked := r.not_mem_name_of_mark c mark
  cases length? with
  | none => exact unmarked
  | some length =>
    have others : ∀ c ∈ marks, c ≠ '[' ∧ c ≠ ']' ∧ c.isDigit = false := by
      simp [marks, Char.isDigit]
    obtain ⟨opening, closing, digit⟩ := others c mark
    simp [text, toList_tableText, unmarked, opening, closing, not_mem_toString_length length digit]

/-- Parameters that are given one by one are never written as two or more below a bound. -/
theorem Params.texts_listed_ne_several (params : List Prim) (bound : Prim) :
    (listed params).texts ≠ (several bound).texts := by
  intro same
  have dotted : bound.name ++ "..." ∈ params.map Prim.name := by
    rw [show params.map Prim.name = _ from same]
    exact List.mem_cons_of_mem _ List.mem_cons_self
  obtain ⟨p, -, named⟩ := List.mem_map.1 dotted
  have undotted := p.not_mem_name_of_mark '.' (by simp [marks])
  rw [named] at undotted
  simp at undotted

theorem Params.texts_injective {params others : Params} (h : params.texts = others.texts) :
    params = others := by
  cases params with
  | listed ps =>
    cases others with
    | listed qs =>
      have same := List.map_injective_iff.2 (fun _ _ => Prim.name_injective) h
      rw [same]
    | several bound => exact absurd h (texts_listed_ne_several ps bound)
  | several bound =>
    cases others with
    | listed qs => exact absurd h.symm (texts_listed_ne_several qs bound)
    | several other =>
      obtain rfl := Prim.name_injective (List.cons.inj h).1
      rfl

theorem Tail.text_injective {tail other : Tail} (h : tail.text = other.text) : tail = other := by
  obtain ⟨r, length?⟩ := tail
  obtain ⟨s, other?⟩ := other
  cases length? with
  | none =>
    cases other? with
    | none => rw [Prim.name_injective h]
    | some n => exact absurd h (name_ne_tableText r s n)
  | some m =>
    cases other? with
    | none => exact absurd h.symm (name_ne_tableText s r m)
    | some n =>
      obtain ⟨rfl, named⟩ := tableText_inj h
      rw [Prim.name_injective named]

/-- A clause with an arrow is the only one with an opening bracket. -/
theorem opening_mem_text_iff {c : Clause} :
    '(' ∈ c.text.toList ↔ ∃ params tail, c = arrow params tail := by
  cases c with
  | value p => simpa [text] using p.not_mem_name_of_mark '(' (by simp [marks])
  | foreign => simp [text]
  | fround => simp [text]
  | arrow params tail => simp [text, toList_functionText]

/-- The clause that a word stands for. -/
def ofWord? (word : String) : Option Clause :=
  if word = "Function" then some foreign
  else if word = "fround" then some fround
  else (Prim.ofName? word).map value

/-- A clause without an arrow is a word, and the word stands for it. -/
theorem ofWord?_text {c : Clause} (word : '(' ∉ c.text.toList) : ofWord? c.text = some c := by
  cases c with
  | value p =>
    have other : p.name ≠ "Function" ∧ p.name ≠ "fround" := by cases p <;> decide
    simp [ofWord?, text, other]
  | foreign => rfl
  | fround => rfl
  | arrow params tail => exact absurd (opening_mem_text_iff.2 ⟨params, tail, rfl⟩) word

/-- A clause can be read off from its written form. -/
theorem text_injective {c d : Clause} (h : c.text = d.text) : c = d := by
  by_cases opening : '(' ∈ c.text.toList
  · obtain ⟨params, tail, rfl⟩ := opening_mem_text_iff.1 opening
    obtain ⟨others, other, rfl⟩ := opening_mem_text_iff.1 (h ▸ opening)
    obtain ⟨texts, rest⟩ := functionText_inj params.isParameterText others.isParameterText h
    rw [Params.texts_injective texts, Tail.text_injective rest]
  · have hc := ofWord?_text opening
    have hd := ofWord?_text (h ▸ opening)
    rw [h] at hc
    exact Option.some.inj (hc.symm.trans hd)

/-- A slash separates clauses: none is empty, and none has a slash. -/
theorem slash_separates (c : Clause) : c.text.toList ≠ [] ∧ '/' ∉ c.text.toList := by
  have named : ∀ p : Prim, p.name.toList ≠ [] ∧ '/' ∉ p.name.toList := fun p =>
    ⟨by simpa using p.name_ne_empty, p.not_mem_name_of_mark '/' (by simp [marks])⟩
  cases c with
  | value p => exact named p
  | foreign => exact ⟨by decide, by decide⟩
  | fround => exact ⟨by decide, by decide⟩
  | arrow params tail =>
    have inner : '/' ∉ [',', ' '].intercalate (params.texts.map String.toList) := by
      intro member
      rcases mem_intercalate member with sep | ⟨x, hx, slash⟩
      · simp at sep
      · obtain ⟨text, listed, rfl⟩ := List.mem_map.1 hx
        exact params.not_mem_texts (by simp [marks]) (by decide) text listed slash
    have outer : '/' ∉ tail.text.toList := tail.not_mem_text (by simp [marks])
    simp [text, toList_functionText, inner, outer]

theorem toList_overloadsText (cs : List Clause) :
    (overloadsText (cs.map text)).toList =
      ([' '] ++ '/' :: ['\\', ' ']).intercalate (cs.map fun c => c.text.toList) := by
  simp [overloadsText, Function.comp_def]

/-- Clauses can be read off from what they are written as with separators between them. -/
theorem overloadsText_injective {cs ds : List Clause}
    (h : overloadsText (cs.map text) = overloadsText (ds.map text)) : cs = ds := by
  have chars := congrArg String.toList h
  rw [toList_overloadsText, toList_overloadsText] at chars
  have separates : ∀ {clauses : List Clause},
      ∀ x ∈ clauses.map fun c => c.text.toList, x ≠ [] ∧ '/' ∉ x := by
    intro clauses x hx
    obtain ⟨c, -, rfl⟩ := List.mem_map.1 hx
    exact c.slash_separates
  have same := intercalate_injective (by simp) separates separates chars
  exact List.map_injective_iff.2 (fun _ _ texts => text_injective (String.toList_inj.1 texts)) same

end Clause

end TypedCalls
