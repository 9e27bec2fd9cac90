import Mathlib.Logic.Function.Basic
import Mathlib.Tactic.Common
import TagSearch.Document

/-!
# Messages tell errors apart

A message shows the text that an error is about between double quotes.  The characters of the text
are shown by a prefix code: a character that is not shown as itself is shown by a backslash, which
never stands for itself, and a code point ends at its closing brace, which is no digit.  So a text
can be told from the way it is shown, and an error from its message.
-/

namespace TagSearch

namespace Text

/-! ### Code points -/

/-- A closing brace is no hexadecimal digit. -/
lemma brace_notMem_toDigits (n : Nat) : '\x7d' ∉ Nat.toDigits 16 n := by
  induction n using Nat.strongRecOn with
  | ind n ih =>
    have hdigit : ∀ d : Nat, '\x7d' ≠ d.digitChar := fun d =>
      (Nat.digitChar_ne '\x7d' (by decide)).symm
    rw [Nat.toDigits_eq_if (by decide)]
    split
    · simp [hdigit]
    · have hlt : n / 16 < n := by omega
      simp [ih _ hlt, hdigit]

/-- Hexadecimal digits are told apart. -/
lemma eq_of_digitChar_eq : ∀ m < 16, ∀ n < 16, Nat.digitChar m = Nat.digitChar n → m = n := by
  decide

/-- Numbers are told apart by their hexadecimal digits. -/
lemma toDigits_sixteen_injective : Function.Injective (Nat.toDigits 16) := by
  intro m
  induction m using Nat.strongRecOn with
  | ind m ih =>
    intro n h
    rw [Nat.toDigits_eq_if (by decide), Nat.toDigits_eq_if (n := n) (by decide)] at h
    -- all digits but the last are those of the quotient, and there is always at least one
    have hne : ∀ (k : Nat) (a b : Char), Nat.toDigits 16 k ++ [a] ≠ [b] := by
      intro k a b heq
      have hlength := congrArg List.length heq
      simp at hlength
    split at h <;> split at h
    next hm hn => exact eq_of_digitChar_eq m hm n hn (List.singleton_inj.mp h)
    next => exact absurd h.symm (hne _ _ _)
    next => exact absurd h (hne _ _ _)
    next hm hn =>
      obtain ⟨hhigh, hlow⟩ := List.append_inj' h rfl
      have hdiv : m / 16 = n / 16 := ih _ (by omega) hhigh
      have hmod : m % 16 = n % 16 :=
        eq_of_digitChar_eq _ (by omega) _ (by omega) (List.singleton_inj.mp hlow)
      omega

/-- Lists up to a mark that is in neither are told apart, whatever follows the mark. -/
lemma append_cons_inj_of_notMem {mark : Char} {ds es xs ys : List Char} (hds : mark ∉ ds)
    (hes : mark ∉ es) (h : ds ++ mark :: xs = es ++ mark :: ys) : ds = es ∧ xs = ys := by
  induction ds generalizing es with
  | nil =>
    cases es with
    | nil => exact ⟨rfl, (List.cons.inj h).2⟩
    | cons e es => exact absurd ((List.cons.inj h).1 ▸ List.mem_cons_self) hes
  | cons d ds ih =>
    cases es with
    | nil => exact absurd ((List.cons.inj h).1 ▸ List.mem_cons_self) hds
    | cons e es =>
      obtain ⟨rfl, htail⟩ := List.cons.inj h
      obtain ⟨rfl, hrest⟩ :=
        ih (List.not_mem_of_not_mem_cons hds) (List.not_mem_of_not_mem_cons hes) htail
      exact ⟨rfl, hrest⟩

/-- Code points are told apart, whatever follows them. -/
lemma codePointEscape_append_inj {c d : Char} {xs ys : List Char}
    (h : codePointEscape c ++ xs = codePointEscape d ++ ys) : c = d ∧ xs = ys := by
  simp only [codePointEscape, List.append_assoc, List.cons_append, List.nil_append,
    List.cons.injEq, true_and] at h
  obtain ⟨hdigits, hrest⟩ :=
    append_cons_inj_of_notMem (brace_notMem_toDigits _) (brace_notMem_toDigits _) h
  exact ⟨Char.toNat_inj.mp (toDigits_sixteen_injective hdigits), hrest⟩

/-! ### Characters -/

/-- The characters that are shown by a backslash and one more character, with this character. -/
def shortEscapes : List (Char × Char) :=
  [('\x00', '0'), ('\t', 't'), ('\n', 'n'), ('\r', 'r'), ('"', '"'), ('\\', '\\')]

/-- A character is shown by a short escape, by its code point or as itself. -/
lemma inspectChar_cases (c : Char) :
    (∃ short, (c, short) ∈ shortEscapes ∧ inspectChar c = ['\\', short]) ∨
    inspectChar c = codePointEscape c ∨ (c ≠ '\\' ∧ inspectChar c = [c]) := by
  unfold inspectChar
  split
  case h_7 _ _ _ _ _ hbackslash =>
    split
    · exact .inr (.inl rfl)
    · exact .inr (.inr ⟨hbackslash, rfl⟩)
  all_goals exact .inl ⟨_, by simp [shortEscapes], rfl⟩

/-- Each short escape is for one character. -/
lemma eq_of_mem_shortEscapes :
    ∀ e ∈ shortEscapes, ∀ e' ∈ shortEscapes, e.2 = e'.2 → e.1 = e'.1 := by
  decide

/-- No short escape is like a code point. -/
lemma ne_of_mem_shortEscapes : ∀ e ∈ shortEscapes, e.2 ≠ 'u' := by
  decide

/-- Characters are told apart by the way they are shown, whatever follows them. -/
lemma inspectChar_append_inj {c d : Char} {xs ys : List Char}
    (h : inspectChar c ++ xs = inspectChar d ++ ys) : c = d ∧ xs = ys := by
  rcases inspectChar_cases c with ⟨short, hshort, hc⟩ | hc | ⟨hcne, hc⟩ <;>
    rcases inspectChar_cases d with ⟨short', hshort', hd⟩ | hd | ⟨hdne, hd⟩ <;>
    rw [hc, hd] at h
  · simp only [List.cons_append, List.nil_append, List.cons.injEq, true_and] at h
    exact ⟨eq_of_mem_shortEscapes _ hshort _ hshort' h.1, h.2⟩
  · simp only [codePointEscape, List.cons_append, List.nil_append, List.cons.injEq, true_and] at h
    exact absurd h.1 (ne_of_mem_shortEscapes _ hshort)
  · exact absurd (List.cons.inj h).1.symm hdne
  · simp only [codePointEscape, List.cons_append, List.nil_append, List.cons.injEq, true_and] at h
    exact absurd h.1.symm (ne_of_mem_shortEscapes _ hshort')
  · exact codePointEscape_append_inj h
  · exact absurd (List.cons.inj h).1.symm hdne
  · exact absurd (List.cons.inj h).1 hcne
  · exact absurd (List.cons.inj h).1 hcne
  · exact List.cons.inj h

/-- A character is not shown as nothing. -/
lemma inspectChar_ne_nil (c : Char) : inspectChar c ≠ [] := by
  rcases inspectChar_cases c with ⟨short, _, hc⟩ | hc | ⟨_, hc⟩ <;> rw [hc] <;>
    simp [codePointEscape]

/-! ### Texts -/

/-- Texts are told apart by the way they are shown. -/
lemma flatMap_inspectChar_injective :
    Function.Injective fun text : List Char => text.flatMap inspectChar := by
  intro xs ys h
  induction xs generalizing ys with
  | nil =>
    cases ys with
    | nil => rfl
    | cons y ys =>
      have hnil := List.append_eq_nil_iff.mp (h.symm : inspectChar y ++ ys.flatMap inspectChar = [])
      exact absurd hnil.1 (inspectChar_ne_nil y)
  | cons x xs ih =>
    cases ys with
    | nil =>
      have hnil := List.append_eq_nil_iff.mp (h : inspectChar x ++ xs.flatMap inspectChar = [])
      exact absurd hnil.1 (inspectChar_ne_nil x)
    | cons y ys =>
      obtain ⟨rfl, hrest⟩ := inspectChar_append_inj
        (h : inspectChar x ++ xs.flatMap inspectChar = inspectChar y ++ ys.flatMap inspectChar)
      rw [ih hrest]

/-- Texts are told apart by the way they are shown in double quotes. -/
lemma inspect_injective : Function.Injective inspect := by
  intro s t h
  have hlists := congrArg String.toList h
  simp only [inspect, String.toList_ofList, List.cons_append, List.cons.injEq, true_and,
    List.append_cancel_right_eq] at hlists
  exact String.toList_injective (flatMap_inspectChar_injective hlists)

end Text

/-! ### Errors -/

/-- The first characters of messages: those of each kind of error are the same. -/
def CompileError.mark : CompileError → Char
  | parse _ => 'p'
  | clause (.unresolved _) => 'f'
  | clause (.unsupported _) => 'u'

/-- A message begins with the mark of the kind of its error. -/
lemma CompileError.head?_message (e : CompileError) : e.message.toList.head? = some e.mark := by
  obtain ⟨asked⟩ | phrase | display := e <;>
    unfold message ParseError.message ClauseError.message mark
  · generalize Text.inspect _ = shown
    simp
  · simp only
    generalize Text.inspect phrase = shown
    simp
  · simp

/-- Errors are told apart by their messages. -/
lemma CompileError.message_injective : Function.Injective message := by
  intro e e' h
  have hmark : e.mark = e'.mark := by
    rw [← Option.some_inj, ← head?_message, ← head?_message, h]
  match e, e', hmark with
  | parse ⟨asked⟩, parse ⟨asked'⟩, _ =>
    have hshown : Text.inspect asked = Text.inspect asked' := (String.append_right_inj _).mp h
    rw [Text.inspect_injective hshown]
  | clause (.unresolved phrase), clause (.unresolved phrase'), _ =>
    have hshown : Text.inspect phrase = Text.inspect phrase' :=
      (String.append_right_inj _).mp ((String.append_left_inj _).mp h)
    rw [Text.inspect_injective hshown]
  | clause (.unsupported display), clause (.unsupported display'), _ =>
    have hshown : display = display' := (String.append_right_inj _).mp h
    rw [hshown]

end TagSearch
