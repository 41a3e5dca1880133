import ImageGate.Proofs.Constraint.Grammar
import ImageGate.Proofs.Version.Reading

/-!
# Reading comparators

A comparator is read off the front of its text part by part. Where the text is well written, every
part is read up to its end: a number up to its last digit (`readNumber_toDigits`), the parts behind
the first one up to the comma or the end of the text (`read_more`). So whatever operator stands in
front, the comparator is the one that the comparison stands for (`read_text`), and comparators with
commas between them are read one by one (`Requirement.ofTexts_eq_ok`).
-/

namespace ImageGate

open Text Version

/-! ## Comparators -/

theorem isWildcard_iff {c : Char} : isWildcard c = true ↔ c ∈ ['*', 'x', 'X'] := by
  simp [isWildcard, or_assoc]

theorem isWildcard_of_isDigit {c : Char} (h : c.isDigit = true) : isWildcard c = false := by
  refine Bool.eq_false_iff.2 fun hw => ?_
  simp only [isWildcard_iff, List.mem_cons, List.not_mem_nil, or_false] at hw
  rcases hw with rfl | rfl | rfl <;> exact absurd h (by decide)

namespace Comparator

/-- The text ends here, or the next comparator follows. -/
def Ends (rest : List Char) : Prop :=
  rest = [] ∨ ∃ cs, rest = ',' :: cs

section Parts

variable {n : Nat} {w : Char} {rest : List Char} {place : Place}

theorem Ends.head?_ne {c : Char} (h : Ends rest) (hc : c ≠ ',') : rest.head? ≠ some c := by
  rcases h with rfl | ⟨cs, rfl⟩
  · nofun
  · simpa using hc.symm

theorem Ends.startsNoDigit (h : Ends rest) : StartsNoDigit rest := by
  rcases h with rfl | ⟨cs, rfl⟩
  · nofun
  · simp [StartsNoDigit]

theorem readPart_number (hn : n ≤ wordMax) (hrest : StartsNoDigit rest) :
    readPart place ('.' :: (Nat.toDigits 10 n ++ rest)) = .ok (.number n, rest) := by
  have hread : readNumber place (Nat.toDigits 10 n ++ rest) = .ok (n, rest) :=
    readNumber_toDigits hn hrest
  obtain ⟨c, cs, hdigits, hc⟩ := exists_toDigits_eq_cons n
  rw [hdigits, List.cons_append] at hread ⊢
  rw [readPart, isWildcard_of_isDigit hc, hread]
  rfl

theorem readPart_wildcard (hw : isWildcard w = true) :
    readPart place ('.' :: w :: rest) = .ok (.wildcard, rest) := by
  rw [readPart, if_pos hw]

theorem readPart_absent (hrest : rest.head? ≠ some '.') :
    readPart place rest = .ok (.absent, rest) := by
  unfold readPart
  split
  · simp at hrest
  · simp at hrest
  · rfl

theorem readPatch_of_ne {minor : Part} (h : minor ≠ .wildcard) (cs : List Char) :
    readPatch minor cs = readPart .patch cs := by
  cases minor with
  | wildcard => exact absurd rfl h
  | absent => rfl
  | number n => rfl

theorem readPatch_wildcard (hw : isWildcard w = true) :
    readPatch .wildcard ('.' :: w :: rest) = .ok (.wildcard, rest) := by
  rw [readPatch, if_pos hw]

theorem readPatch_absent {minor : Part} (hrest : rest.head? ≠ some '.') :
    readPatch minor rest = .ok (.absent, rest) := by
  unfold readPatch
  split
  · simp at hrest
  · simp at hrest
  · exact readPart_absent hrest

end Parts

variable {p : PartialVersion} {wildcards rest : List Char}

/-- The parts behind the first one are read up to the end of the text. -/
theorem read_more (h : p.AllowsWildcards wildcards) (hrest : Ends rest) :
    ∃ minor patch mid,
      readPart .minor (p.behind wildcards ++ rest) = .ok (minor, mid) ∧
      readPatch minor mid = .ok (patch, rest) ∧ minor.number? = p.more[0]? ∧
      patch.number? = p.more[1]? ∧ (minor = .wildcard ∨ patch = .wildcard ↔ wildcards ≠ []) := by
  have hdot : rest.head? ≠ some '.' := hrest.head?_ne (by decide)
  have hpart (w : Char) (hw : w ∈ wildcards) : isWildcard w = true :=
    isWildcard_iff.2 (h.wildcard w hw)
  have hlen := h.length_le
  rcases p.more_cases with hmore | ⟨b, hmore⟩ | ⟨b, c, hmore⟩ <;>
    rw [PartialVersion.behind, hmore] <;> rw [hmore] at hlen
  · rcases wildcards with _ | ⟨w, _ | ⟨x, _ | ⟨y, ws⟩⟩⟩
    · exact ⟨_, _, _, readPart_absent hdot, readPatch_absent hdot, rfl, rfl, by simp⟩
    · exact ⟨_, _, _, readPart_wildcard (hpart w (by simp)), readPatch_absent hdot, rfl, rfl,
        by simp⟩
    · exact ⟨_, _, _, readPart_wildcard (hpart w (by simp)),
        readPatch_wildcard (hpart x (by simp)), rfl, rfl, by simp⟩
    · simp at hlen
  · have hb : b ≤ wordMax := p.le_wordMax b (by simp [hmore])
    have hread (behind : List Char) (hbehind : StartsNoDigit behind) :
        readPart .minor ('.' :: Nat.toDigits 10 b ++ behind) = .ok (.number b, behind) :=
      readPart_number hb hbehind
    rcases wildcards with _ | ⟨w, _ | ⟨x, ws⟩⟩
    · refine ⟨.number b, .absent, rest, ?_, readPatch_absent hdot, rfl, rfl, by simp⟩
      simpa using hread rest hrest.startsNoDigit
    · refine ⟨.number b, .wildcard, '.' :: w :: rest, ?_, ?_, rfl, rfl, by simp⟩
      · simpa using hread ('.' :: w :: rest) (by simp [StartsNoDigit])
      · rw [readPatch_of_ne (by simp), readPart_wildcard (hpart w (by simp))]
    · simp only [List.length_cons, List.length_nil] at hlen
      omega
  · have hb : b ≤ wordMax := p.le_wordMax b (by simp [hmore])
    have hc : c ≤ wordMax := p.le_wordMax c (by simp [hmore])
    rcases wildcards with _ | ⟨w, ws⟩
    · refine ⟨.number b, .number c, '.' :: (Nat.toDigits 10 c ++ rest), ?_, ?_, rfl, rfl, by simp⟩
      · have hread : readPart .minor
            ('.' :: (Nat.toDigits 10 b ++ '.' :: (Nat.toDigits 10 c ++ rest))) = _ :=
          readPart_number hb (by simp [StartsNoDigit])
        simpa using hread
      · rw [readPatch_of_ne (by simp), readPart_number hc hrest.startsNoDigit]
    · simp only [List.length_cons, List.length_nil] at hlen
      omega

theorem startsNoDigit_behind (hrest : Ends rest) : StartsNoDigit (p.behind wildcards ++ rest) := by
  rcases p.more_cases with hmore | ⟨b, hmore⟩ | ⟨b, c, hmore⟩ <;> rw [PartialVersion.behind, hmore]
  · cases wildcards with
    | nil => exact hrest.startsNoDigit
    | cons w ws => simp [StartsNoDigit]
  · simp [StartsNoDigit]
  · simp [StartsNoDigit]

theorem readMarked_of_ends {mark : Char} {place : Place} (hrest : Ends rest) (hmark : mark ≠ ',') :
    readMarked mark place rest = .ok ([], rest) := by
  rcases hrest with rfl | ⟨cs, rfl⟩
  · rfl
  · rw [readMarked, if_neg hmark.symm]

/-- **A comparator is read up to the end of its text**, whichever operator it has. Without one, it
is an exact match if the version has wildcards. -/
theorem read_text {operator : Option Comparison} {cs : List Char} (h : p.AllowsWildcards wildcards)
    (hrest : Ends rest) (hop : readOperator cs = (operator, p.text wildcards ++ rest)) :
    ∃ place, read cs = .ok
      (p.comparator (operator.getD (if wildcards = [] then .caret else .exact)), place, rest) := by
  obtain ⟨minor, patch, mid, hminor, hpatch, hb, hc, hwild⟩ := read_more h hrest
  have hmajor : readNumber .major (p.text wildcards ++ rest) =
      .ok (p.major, p.behind wildcards ++ rest) := by
    rw [PartialVersion.text, List.append_assoc]
    exact readNumber_toDigits (p.le_wordMax _ List.mem_cons_self) (startsNoDigit_behind hrest)
  have hpre : readMarked '-' .pre rest = .ok ([], rest) := readMarked_of_ends hrest (by decide)
  have hbuild : readMarked '+' .build rest = .ok ([], rest) := readMarked_of_ends hrest (by decide)
  unfold read
  rw [hop]
  simp only [hmajor, hminor, hpatch, hpre, hbuild, bind, Except.bind, hb, hc, hwild, ite_self]
  exact ⟨lastPlace minor patch [] [], by simp [PartialVersion.comparator, pure, Except.pure]⟩

end Comparator

def Comparison.sign : Comparison → List Char
  | .exact => ['=']
  | .greater => ['>']
  | .greaterEq => ['>', '=']
  | .less => ['<']
  | .lessEq => ['<', '=']
  | .tilde => ['~']
  | .caret => ['^']

namespace Comparator

/-- A text is read as a comparator, whether others follow or not. -/
structure Reads (text : List Char) (c : Comparator) : Prop where
  head : ∃ d ds, text = d :: ds ∧ isWildcard d = false
  read : ∀ rest, Ends rest → ∃ place, read (text ++ rest) = .ok (c, place, rest)

variable {p : PartialVersion} {wildcards : List Char} {k : Comparison}

theorem exists_text_eq_cons (p : PartialVersion) (wildcards : List Char) :
    ∃ d ds, p.text wildcards = d :: ds ∧ d.isDigit = true := by
  obtain ⟨d, ds, hdigits, hd⟩ := exists_toDigits_eq_cons p.major
  refine ⟨d, ds ++ p.behind wildcards, ?_, hd⟩
  rw [PartialVersion.text, hdigits, List.cons_append]

theorem exists_dropV_eq {version : List Char} (h : p.Written version) :
    ∃ wildcards, p.AllowsWildcards wildcards ∧ dropV version = p.text wildcards := by
  cases h with
  | @prefixed wildcards hw => exact ⟨wildcards, hw, rfl⟩
  | @plain wildcards hw =>
    refine ⟨wildcards, hw, ?_⟩
    obtain ⟨d, ds, htext, hd⟩ := exists_text_eq_cons p wildcards
    have hne : d ≠ 'v' := by
      rintro rfl
      exact absurd hd (by decide)
    simp [htext, dropV, hne]

theorem readOperator_sign {cs : List Char} (h : cs.head? ≠ some '=') :
    readOperator (k.sign ++ cs) = (some k, cs) := by
  cases k with
  | greater | less =>
    simp only [Comparison.sign, List.cons_append, List.nil_append]
    unfold readOperator
    split <;> simp_all
  | _ => rfl

theorem readOperator_of_isDigit {d : Char} {ds : List Char} (h : d.isDigit = true) :
    readOperator (d :: ds) = (none, d :: ds) := by
  unfold readOperator
  split <;> simp_all

section Versions

variable {core : List Char} {c : Comparator}

/-- A version that is read without an operator up to its end is read as a comparator. -/
theorem reads_plain (hcore : ∃ d ds, core = d :: ds ∧ d.isDigit = true)
    (hread : ∀ cs rest, Ends rest → readOperator cs = (none, core ++ rest) →
      ∃ place, read cs = .ok (c, place, rest)) : Reads core c := by
  obtain ⟨d, ds, rfl, hd⟩ := hcore
  refine ⟨⟨d, ds, rfl, isWildcard_of_isDigit hd⟩, fun rest hrest => hread _ rest hrest ?_⟩
  rw [List.cons_append, readOperator_of_isDigit hd]

theorem reads_signed (hcore : ∃ d ds, core = d :: ds ∧ d.isDigit = true)
    (hread : ∀ cs rest, Ends rest → readOperator cs = (some k, core ++ rest) →
      ∃ place, read cs = .ok (c, place, rest)) : Reads (k.sign ++ core) c := by
  obtain ⟨d, ds, rfl, hd⟩ := hcore
  refine ⟨?_, fun rest hrest => hread _ rest hrest ?_⟩
  · cases k <;> exact ⟨_, _, rfl, rfl⟩
  · rw [List.append_assoc]
    refine readOperator_sign ?_
    rintro ⟨⟩
    exact absurd hd (by decide)

end Versions

theorem reads_sign (k : Comparison) (h : p.AllowsWildcards wildcards) :
    Reads (k.sign ++ p.text wildcards) (p.comparator k) :=
  reads_signed (exists_text_eq_cons p wildcards) fun _ _ hrest hop => read_text h hrest hop

theorem reads_text (h : p.AllowsWildcards wildcards) (hne : wildcards ≠ []) :
    Reads (p.text wildcards) (p.comparator .exact) := by
  refine reads_plain (exists_text_eq_cons p wildcards) fun cs rest hrest hop => ?_
  obtain ⟨place, hread⟩ := read_text h hrest hop
  rw [if_neg hne] at hread
  exact ⟨place, hread⟩

end Comparator

/-! ## Requirements -/

namespace Requirement

open Comparator

variable {texts : List (List Char)} {comparators : List Comparator}

theorem readAll_eq_ok (h : List.Forall₂ Reads texts comparators) {room : Nat}
    (hroom : texts.length ≤ room) : readAll room texts = .ok comparators := by
  induction h generalizing room with
  | nil => rfl
  | @cons text c texts comparators htext htexts ih =>
    rw [List.length_cons] at hroom
    cases htexts with
    | nil =>
      obtain ⟨place, hread⟩ := htext.read [] (.inl rfl)
      rw [List.append_nil] at hread
      simp only [readAll, List.isEmpty_nil, if_pos, hread, Except.mapError, bind, Except.bind]
      rfl
    | @cons next d texts comparators hnext htexts =>
      obtain ⟨place, hread⟩ := htext.read [','] (.inr ⟨[], rfl⟩)
      rw [List.length_cons] at hroom
      have hone : ¬ room ≤ 1 := by omega
      have hmore : readAll (room - 1) (next :: texts) = .ok (d :: comparators) := by
        refine ih ?_
        rw [List.length_cons]
        omega
      rw [readAll]
      simp only [List.isEmpty_cons, Bool.false_eq_true, if_false, hread, Except.mapError, bind,
        Except.bind, hone, hmore]
      rfl

/-- **Comparators are read one by one**, as many as a requirement may have. -/
theorem ofTexts_eq_ok (h : List.Forall₂ Reads texts comparators)
    (hsize : texts.length ≤ sizeMax) : ofTexts texts = .ok ⟨comparators⟩ := by
  have hread := readAll_eq_ok h hsize
  cases h with
  | nil => rfl
  | @cons text c texts comparators htext htexts =>
    obtain ⟨d, ds, rfl, hd⟩ := htext.head
    have hfirst : ofTexts ((d :: ds) :: texts) =
        (readAll sizeMax ((d :: ds) :: texts)).map (⟨·⟩) := by
      cases ds <;> cases texts <;> simp [ofTexts, hd]
    rw [hfirst, hread]
    rfl

theorem ofTexts_singleton {text : List Char} {c : Comparator} (h : Reads text c) :
    ofTexts [text] = .ok ⟨[c]⟩ :=
  ofTexts_eq_ok (.cons h .nil) (Nat.le_add_left 1 31)

end Requirement

end ImageGate
