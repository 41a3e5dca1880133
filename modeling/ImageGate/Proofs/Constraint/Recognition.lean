import ImageGate.Proofs.Constraint.Reading

/-!
# Which texts are comparators

A comparator is an operator, or none, and a version behind it (`IsComparator`). The reader takes
just these texts: what it has read off the front of a text is an operator and a version
(`exists_isVersion_of_read`), and of an operator and a version it reads all (`exists_reads`). A list
of comparators is read if all of its texts are comparators and there are not too many of them, or if
it is a lone wildcard (`Requirement.exists_ofTexts_iff`).

The comma that separates two comparators is visible to the reader of the first one, so it matters
that no version holds a comma (`IsVersion.comma_not_mem`).
-/

namespace ImageGate

open Text Version

/-- A version as it stands in a constraint, save for a leading `v`. -/
inductive Constraint.IsVersion : List Char → Prop
  /-- One to three numbers; wildcards may stand for the parts that are absent. -/
  | parts {p : PartialVersion} {wildcards : List Char} : p.AllowsWildcards wildcards →
      IsVersion (p.text wildcards)
  /-- Three numbers, a pre-release and build metadata. -/
  | full {v : Version} : v.IsValid → IsVersion v.text

open Constraint

/-! ## The characters of versions -/

section Characters

variable {core : List Char}

theorem Constraint.IsVersion.chars (h : IsVersion core) :
    ∀ c ∈ core, c.isAlphanum = true ∨ c ∈ ['.', '*', '-', '+'] := by
  have hdigit {n : Nat} : ∀ c ∈ Nat.toDigits 10 n, c.isAlphanum = true := by
    intro c hc
    simp [Char.isAlphanum, isDigit_of_mem_toDigits hc]
  cases h with
  | parts h =>
    intro c hc
    rcases PartialVersion.isVersionChar_of_mem_text h c hc with hdigit | hmem
    · simp [Char.isAlphanum, hdigit]
    · simp only [List.mem_cons, List.not_mem_nil, or_false] at hmem
      rcases hmem with rfl | rfl | rfl | rfl | rfl <;> decide
  | full h =>
    intro c hc
    simp only [text, List.mem_append, List.mem_cons] at hc
    rcases hc with hc | rfl | hc | rfl | hc | hc | hc
    · exact .inl (hdigit c hc)
    · simp
    · exact .inl (hdigit c hc)
    · simp
    · exact .inl (hdigit c hc)
    · rcases chars_marked h.pre c hc with h | h | h | h <;> simp [h]
    · rcases chars_marked h.build c hc with h | h | h | h <;> simp [h]

theorem Constraint.IsVersion.comma_not_mem (h : IsVersion core) : ',' ∉ core :=
  not_mem_of_forall h.chars (by decide)

theorem Constraint.IsVersion.exists_cons (h : IsVersion core) :
    ∃ d ds, core = d :: ds ∧ d.isDigit = true := by
  cases h with
  | parts h => exact Comparator.exists_text_eq_cons _ _
  | @full v h =>
    obtain ⟨d, ds, hdigits, hd⟩ := exists_toDigits_eq_cons v.major
    exact ⟨d, _, by rw [Version.text, hdigits, List.cons_append], hd⟩

end Characters

namespace Comparator

/-! ## What is read has been written -/

/-- A part of a version as it is written, with its dot. -/
inductive Part.Written : Part → List Char → Prop
  | absent : Written .absent []
  | wildcard {w : Char} : w ∈ ['*', 'x', 'X'] → Written .wildcard ['.', w]
  | number {n : Nat} : n ≤ wordMax → Written (.number n) ('.' :: Nat.toDigits 10 n)

section Parts

variable {place : Place} {cs rest : List Char} {part minor : Part}

theorem exists_written_of_readPart (h : readPart place cs = .ok (part, rest)) :
    ∃ w, part.Written w ∧ cs = w ++ rest ∧ (part = .absent → rest.head? ≠ some '.') := by
  unfold readPart at h
  split at h
  case h_1 c cs =>
    split at h
    case isTrue hw =>
      cases h
      exact ⟨['.', c], .wildcard (isWildcard_iff.1 hw), rfl, nofun⟩
    case isFalse =>
      obtain ⟨⟨n, more⟩, hread, heq⟩ := map_eq_ok_iff.1 h
      cases heq
      obtain ⟨hn, hcs, -⟩ := readNumber_eq_ok_iff.1 hread
      exact ⟨_, .number hn, by rw [hcs]; rfl, nofun⟩
  case h_2 => cases h
  case h_3 hdot hdots =>
    cases h
    refine ⟨[], .absent, rfl, fun _ hhead => ?_⟩
    obtain ⟨ds, rfl⟩ := List.head?_eq_some_iff.1 hhead
    cases ds with
    | nil => exact hdots rfl
    | cons d ds => exact hdot d ds rfl

theorem exists_written_of_readPatch (h : readPatch minor cs = .ok (part, rest)) :
    ∃ w, part.Written w ∧ cs = w ++ rest ∧ (part = .absent → rest.head? ≠ some '.') ∧
      (minor = .wildcard → part.number? = none) := by
  unfold readPatch at h
  split at h
  case h_1 c cs =>
    split at h
    case isTrue hw =>
      cases h
      exact ⟨['.', c], .wildcard (isWildcard_iff.1 hw), rfl, nofun, fun _ => rfl⟩
    case isFalse => cases h
  case h_2 => cases h
  case h_3 hdot hdots =>
    obtain ⟨w, hw, hcs, hrest⟩ := exists_written_of_readPart h
    refine ⟨w, hw, hcs, hrest, fun hminor => ?_⟩
    cases hw with
    | absent => rfl
    | wildcard => rfl
    | number =>
      -- Behind a wildcard, the dot of a number would have been refused.
      rw [List.cons_append] at hcs
      cases hbehind : Nat.toDigits 10 _ ++ rest with
      | nil => exact absurd (hcs.trans (by rw [hbehind])) (hdots hminor)
      | cons d ds => exact absurd (hcs.trans (by rw [hbehind])) (hdot d ds hminor)

end Parts

/-- **What is read of a comparator is a version behind an operator.** -/
theorem exists_isVersion_of_read {cs rest : List Char} {c : Comparator} {place : Place}
    (h : read cs = .ok (c, place, rest)) :
    ∃ operator core, readOperator cs = (operator, core ++ rest) ∧ IsVersion core := by
  unfold read at h
  dsimp only at h
  obtain ⟨⟨major, behindMajor⟩, hmajor, h⟩ := bind_eq_ok_iff.1 h
  obtain ⟨⟨minor, behindMinor⟩, hminor, h⟩ := bind_eq_ok_iff.1 h
  obtain ⟨⟨patch, behindPatch⟩, hpatch, h⟩ := bind_eq_ok_iff.1 h
  obtain ⟨hmajorle, hcs, -⟩ := readNumber_eq_ok_iff.1 hmajor
  obtain ⟨w, hw, rfl, hdot⟩ := exists_written_of_readPart hminor
  obtain ⟨x, hx, rfl, -, hwild⟩ := exists_written_of_readPatch hpatch
  -- All but a version of three numbers is a partial version with wildcards.
  have parts (more : List Nat) (wildcards : List Char) (hmore : ∀ n ∈ more, n ≤ wordMax)
      (hwildcards : ∀ u ∈ wildcards, u ∈ ['*', 'x', 'X'])
      (hlength : more.length + wildcards.length ≤ 2)
      (heq : w ++ (x ++ behindPatch) = more.flatMap (fun n => '.' :: Nat.toDigits 10 n) ++
        (wildcards.flatMap (fun u => ['.', u]) ++ rest)) :
      ∃ operator core, readOperator cs = (operator, core ++ rest) ∧ IsVersion core := by
    let p : PartialVersion :=
      ⟨major, more, by omega, List.forall_mem_cons.2 ⟨hmajorle, hmore⟩⟩
    refine ⟨_, p.text wildcards, Prod.ext rfl ?_, .parts ⟨hwildcards, hlength⟩⟩
    simp [hcs, heq, p, PartialVersion.text, PartialVersion.behind]
  cases hw with
  | absent =>
    cases hx with
    | absent =>
      cases h
      exact parts [] [] (by simp) (by simp) (by simp) (by simp)
    | wildcard => simp at hdot
    | number => simp at hdot
  | @wildcard u hu =>
    cases hx with
    | absent =>
      cases h
      exact parts [] [u] (by simp) (by simpa using hu) (by simp) (by simp)
    | @wildcard v hv =>
      cases h
      exact parts [] [u, v] (by simp) (by simp_all) (by simp) (by simp)
    | number => simp [Part.number?] at hwild
  | @number b hb =>
    cases hx with
    | absent =>
      cases h
      exact parts [b] [] (by simpa using hb) (by simp) (by simp) (by simp)
    | @wildcard u hu =>
      cases h
      exact parts [b] [u] (by simpa using hb) (by simpa using hu) (by simp) (by simp)
    | @number n hn =>
      obtain ⟨⟨pre, behindPre⟩, hpre, h⟩ := bind_eq_ok_iff.1 h
      obtain ⟨⟨build, behindBuild⟩, hbuild, h⟩ := bind_eq_ok_iff.1 h
      cases h
      obtain ⟨hpreValid, hbehind, -⟩ := readMarked_eq_ok_iff.1 hpre
      obtain ⟨hbuildValid, hbehind', -⟩ := readMarked_eq_ok_iff.1 hbuild
      dsimp only at hbehind hbehind'
      let v : Version := ⟨major, b, n, pre, build⟩
      refine ⟨_, v.text, Prod.ext rfl ?_, .full ⟨hmajorle, hb, hn, hpreValid, hbuildValid⟩⟩
      simp [hcs, v, Version.text, hbehind, hbehind']

/-! ## What has been written is read -/

def ofVersion (k : Comparison) (v : Version) : Comparator :=
  { comparison := k, major := v.major, minor := some v.minor, patch := some v.patch, pre := v.pre }

section Full

variable {v : Version} {rest : List Char}

theorem Ends.eq_comma (h : Ends rest) : ∀ c ∈ rest.head?, c = ',' := by
  rcases h with rfl | ⟨cs, rfl⟩
  · nofun
  · simp

theorem Ends.endsIdentifiers (h : Ends rest) : EndsIdentifiers rest := by
  rcases h with rfl | ⟨cs, rfl⟩
  · nofun
  · simp [EndsIdentifiers]

/-- Behind its mark, a list of identifiers is read up to the next mark or the end. -/
theorem readMarked_marked {mark : Char} {place : Place} {ids : List Identifier}
    (h : ∀ i ∈ ids, i.IsValidIn place) (hhead : rest.head? ≠ some mark)
    (hends : EndsIdentifiers rest) : readMarked mark place (marked mark ids ++ rest) =
      .ok (ids, rest) := by
  refine readMarked_eq_ok_iff.2 ⟨h, rfl, ?_⟩
  split
  · exact hhead
  · exact hends

theorem head?_marked_append {mark : Char} {ids : List Identifier} :
    ∀ c ∈ (marked mark ids ++ rest).head?, c = mark ∨ c ∈ rest.head? := by
  intro c hc
  unfold marked at hc
  split at hc
  · exact .inr hc
  · exact .inl (by simpa using hc.symm)

/-- **A full version is read up to the end of its text**, whichever operator it has. -/
theorem read_full {operator : Option Comparison} {cs : List Char} (hv : v.IsValid)
    (hrest : Ends rest) (hop : readOperator cs = (operator, v.text ++ rest)) :
    ∃ place, read cs = .ok (ofVersion (operator.getD .caret) v, place, rest) := by
  -- What is behind the numbers begins with a mark or a comma.
  let suffix := marked '-' v.pre ++ (marked '+' v.build ++ rest)
  have hbuildHead : ∀ c ∈ (marked '+' v.build ++ rest).head?, c = '+' ∨ c = ',' :=
    fun c hc => (head?_marked_append c hc).imp_right (hrest.eq_comma c)
  have hsuffix : StartsNoDigit suffix := by
    intro c hc
    rcases head?_marked_append c hc with rfl | hc
    · rfl
    · rcases hbuildHead c hc with rfl | rfl <;> rfl
  have hmajor : readNumber .major (v.text ++ rest) = .ok (v.major,
      '.' :: (Nat.toDigits 10 v.minor ++ '.' :: (Nat.toDigits 10 v.patch ++ suffix))) := by
    rw [Version.text, List.append_assoc]
    simpa [suffix] using readNumber_toDigits hv.major_le (by simp [StartsNoDigit])
  have hminor : readPart .minor
      ('.' :: (Nat.toDigits 10 v.minor ++ '.' :: (Nat.toDigits 10 v.patch ++ suffix))) =
      .ok (.number v.minor, '.' :: (Nat.toDigits 10 v.patch ++ suffix)) :=
    readPart_number hv.minor_le (by simp [StartsNoDigit])
  have hpatch : readPatch (.number v.minor) ('.' :: (Nat.toDigits 10 v.patch ++ suffix)) =
      .ok (.number v.patch, suffix) := by
    rw [readPatch_of_ne (by simp), readPart_number hv.patch_le hsuffix]
  have hpre : readMarked '-' .pre suffix = .ok (v.pre, marked '+' v.build ++ rest) := by
    refine readMarked_marked hv.pre (fun hhead => ?_) fun c hc => ?_
    · rcases hbuildHead _ hhead with h | h <;> cases h
    · rcases hbuildHead c hc with rfl | rfl <;> decide
  have hbuild : readMarked '+' .build (marked '+' v.build ++ rest) = .ok (v.build, rest) :=
    readMarked_marked hv.build (hrest.head?_ne (by decide)) hrest.endsIdentifiers
  refine ⟨lastPlace (.number v.minor) (.number v.patch) v.pre v.build, ?_⟩
  unfold read
  rw [hop]
  simp [hmajor, hminor, hpatch, hpre, hbuild, bind, Except.bind, Part.number?, ofVersion, pure,
    Except.pure]

end Full

/-- A comparator as requirements write it: an operator, or none, and a version. -/
inductive IsComparator : List Char → Prop
  | plain {core : List Char} : IsVersion core → IsComparator core
  | sign (k : Comparison) {core : List Char} : IsVersion core → IsComparator (k.sign ++ core)

variable {text core rest : List Char}

theorem IsComparator.comma_not_mem (h : IsComparator text) : ',' ∉ text := by
  cases h with
  | plain h => exact h.comma_not_mem
  | sign k h =>
    rw [List.mem_append, not_or]
    refine ⟨?_, h.comma_not_mem⟩
    cases k <;> decide

theorem readOperator_eq {cs more : List Char} {operator : Option Comparison}
    (h : readOperator cs = (operator, more)) :
    (operator = none ∧ cs = more) ∨ ∃ k, operator = some k ∧ cs = k.sign ++ more := by
  unfold readOperator at h
  split at h <;> cases h
  case h_1 => exact .inr ⟨.exact, rfl, rfl⟩
  case h_2 => exact .inr ⟨.greaterEq, rfl, rfl⟩
  case h_3 => exact .inr ⟨.greater, rfl, rfl⟩
  case h_4 => exact .inr ⟨.lessEq, rfl, rfl⟩
  case h_5 => exact .inr ⟨.less, rfl, rfl⟩
  case h_6 => exact .inr ⟨.tilde, rfl, rfl⟩
  case h_7 => exact .inr ⟨.caret, rfl, rfl⟩
  case h_8 => exact .inl ⟨rfl, rfl⟩

theorem exists_isComparator_of_read {cs : List Char} {c : Comparator} {place : Place}
    (h : read cs = .ok (c, place, rest)) : ∃ text, IsComparator text ∧ cs = text ++ rest := by
  obtain ⟨operator, core, hop, hcore⟩ := exists_isVersion_of_read h
  rcases readOperator_eq hop with ⟨-, rfl⟩ | ⟨k, -, rfl⟩
  · exact ⟨core, .plain hcore, rfl⟩
  · exact ⟨k.sign ++ core, .sign k hcore, by rw [List.append_assoc]⟩

theorem exists_read_of_isVersion (h : IsVersion core) (operator : Option Comparison) :
    ∃ c, ∀ cs rest, Ends rest → readOperator cs = (operator, core ++ rest) →
      ∃ place, read cs = .ok (c, place, rest) := by
  cases h with
  | parts h => exact ⟨_, fun cs rest hrest hop => read_text h hrest hop⟩
  | full h => exact ⟨_, fun cs rest hrest hop => read_full h hrest hop⟩

/-- **Every comparator is read.** -/
theorem exists_reads (h : IsComparator text) : ∃ c, Reads text c := by
  cases h with
  | plain h =>
    obtain ⟨c, hc⟩ := exists_read_of_isVersion h none
    exact ⟨c, reads_plain h.exists_cons hc⟩
  | sign k h =>
    obtain ⟨c, hc⟩ := exists_read_of_isVersion h (some k)
    exact ⟨c, reads_signed h.exists_cons hc⟩

theorem IsComparator.head?_not_wildcard (h : IsComparator text) :
    ∀ c ∈ text.head?, isWildcard c = false := by
  obtain ⟨c, ⟨d, ds, rfl, hd⟩, -⟩ := exists_reads h
  simpa using hd

end Comparator

namespace Comparison

variable (k : Comparison)

theorem sign_ne_nil : k.sign ≠ [] := by
  cases k <;> decide

theorem isOperatorChar_of_mem_sign : ∀ c ∈ k.sign, isOperatorChar c = true := by
  cases k <;> simp [sign, isOperatorChar]

theorem sign_mem_spellings : k.sign ∈ k.spellings := by
  cases k <;> decide

end Comparison

/-! ## Requirements -/

namespace Requirement

open Comparator

variable {texts : List (List Char)}

theorem exists_forall₂_reads (h : ∀ text ∈ texts, IsComparator text) :
    ∃ comparators, List.Forall₂ Reads texts comparators := by
  induction texts with
  | nil => exact ⟨[], .nil⟩
  | cons text texts ih =>
    obtain ⟨htext, htexts⟩ := List.forall_mem_cons.1 h
    obtain ⟨c, hc⟩ := exists_reads htext
    obtain ⟨cs, hcs⟩ := ih htexts
    exact ⟨c :: cs, .cons hc hcs⟩

/-- A comma belongs to no comparator, so the first one ends a comparator. -/
theorem eq_of_append_comma {text front rest : List Char} (htext : ',' ∉ text)
    (hfront : IsComparator front) (h : text ++ [','] = front ++ ',' :: rest) : text = front := by
  have hcut : cutFirst? ',' (text ++ [',']) = some (text, []) := cutFirst?_append htext
  rw [h, cutFirst?_append hfront.comma_not_mem] at hcut
  cases hcut
  rfl

theorem isComparator_of_readAll {room : Nat} {comparators : List Comparator} (hroom : 1 ≤ room)
    (hcomma : ∀ text ∈ texts, ',' ∉ text) (h : readAll room texts = .ok comparators) :
    (∀ text ∈ texts, IsComparator text) ∧ texts.length ≤ room := by
  induction texts generalizing room comparators with
  | nil => exact ⟨nofun, Nat.zero_le _⟩
  | cons item items ih =>
    obtain ⟨hitem, hitems⟩ := List.forall_mem_cons.1 hcomma
    rw [readAll] at h
    obtain ⟨⟨c, place, rest⟩, hread, h⟩ := bind_eq_ok_iff.1 h
    obtain ⟨front, hfront, heq⟩ := exists_isComparator_of_read (mapError_eq_ok_iff.1 hread)
    dsimp only at h
    cases items with
    | nil =>
      -- The last comparator is read up to the end of its text.
      rw [List.isEmpty_nil, if_pos rfl] at heq
      split at h
      case h_1 =>
        rw [List.append_nil] at heq
        exact ⟨List.forall_mem_singleton.2 (heq ▸ hfront), hroom⟩
      case h_2 hnil => cases hnil
      case h_3 => cases h
    | cons next items =>
      -- Every other one is read up to the comma that has been put behind it.
      rw [List.isEmpty_cons, if_neg Bool.false_ne_true] at heq
      split at h
      case h_1 =>
        rw [List.append_nil] at heq
        exact absurd (heq ▸ List.mem_append_right item List.mem_cons_self) hfront.comma_not_mem
      case h_2 =>
        obtain rfl : item = front := eq_of_append_comma hitem hfront heq
        by_cases hone : room ≤ 1
        · rw [if_pos hone] at h
          cases h
        · rw [if_neg hone] at h
          obtain ⟨more, hread, -⟩ := bind_eq_ok_iff.1 h
          obtain ⟨hall, hlength⟩ := ih (by omega) hitems hread
          refine ⟨List.forall_mem_cons.2 ⟨hfront, hall⟩, ?_⟩
          rw [List.length_cons]
          omega
      case h_3 => cases h

/-- **Comparators are read if all of their texts are comparators**, and not more of them than a
requirement may have. A lone wildcard is no comparator and is read all the same. -/
theorem exists_ofTexts_iff (hcomma : ∀ text ∈ texts, ',' ∉ text) :
    (∃ r, ofTexts texts = .ok r) ↔ (∃ w ∈ ['*', 'x', 'X'], texts = [[w]]) ∨
      ((∀ text ∈ texts, IsComparator text) ∧ texts.length ≤ sizeMax) := by
  have hall {r : Requirement} (h : (readAll sizeMax texts).map (⟨·⟩) = .ok r) :
      (∀ text ∈ texts, IsComparator text) ∧ texts.length ≤ sizeMax := by
    obtain ⟨comparators, hread, -⟩ := map_eq_ok_iff.1 h
    exact isComparator_of_readAll (by decide) hcomma hread
  constructor
  · rintro ⟨r, h⟩
    unfold ofTexts at h
    split at h
    case h_1 => exact .inr ⟨nofun, Nat.zero_le _⟩
    case h_2 c =>
      split at h
      case isTrue hc => exact .inl ⟨c, isWildcard_iff.1 hc, rfl⟩
      case isFalse => exact .inr (hall h)
    case h_3 =>
      split at h
      case isTrue => cases h
      case isFalse => exact .inr (hall h)
    case h_4 => exact .inr (hall h)
  · rintro (⟨w, hw, rfl⟩ | ⟨htexts, hlength⟩)
    · exact ⟨⟨[]⟩, by rw [ofTexts, if_pos (isWildcard_iff.2 hw)]⟩
    · obtain ⟨comparators, hreads⟩ := exists_forall₂_reads htexts
      exact ⟨_, ofTexts_eq_ok hreads hlength⟩

end Requirement

end ImageGate
