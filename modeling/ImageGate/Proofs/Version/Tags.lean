import ImageGate.Proofs.Version.Reading

/-!
# Tags that are versions

Tags are versions of one grammar (`ofTag_eq_some_iff`): one to three numbers, a pre-release behind a
dash and build metadata behind a plus sign, and possibly a `v` in front of it all. A number is of 64
bits and has no leading zero, and neither has a number in a pre-release.

The grammar is also what comes of reading full versions only, and of filling up with zeros what does
not read as one (`ofTagChars_eq_or`). The zeros go in front of the first dash or plus sign, and they
are only added to numbers. So no tag is read in two ways, and a tag of three numbers that is not a
full version is none at all.
-/

namespace ImageGate.Version

open Text

/-- One to three numbers with dots between them; those that are not given are zero. -/
inductive WritesNumbers : Nat → Nat → Nat → List Char → Prop
  | one (major : Nat) : WritesNumbers major 0 0 (Nat.toDigits 10 major)
  | two (major minor : Nat) :
      WritesNumbers major minor 0 (Nat.toDigits 10 major ++ '.' :: Nat.toDigits 10 minor)
  | three (major minor patch : Nat) : WritesNumbers major minor patch
      (Nat.toDigits 10 major ++ '.' :: (Nat.toDigits 10 minor ++ '.' :: Nat.toDigits 10 patch))

/-- The text gives one to three numbers of the version, and its pre-release and build metadata if
there are any. -/
def IsWrittenAs (v : Version) (cs : List Char) : Prop :=
  v.IsValid ∧ ∃ numbers, WritesNumbers v.major v.minor v.patch numbers ∧
    cs = numbers ++ (marked '-' v.pre ++ marked '+' v.build)

variable {cs rest numbers : List Char} {v : Version} {major minor patch n : Nat} {place : Place}

/-! ## Numbers -/

theorem readDotNumber_eq_some_iff : readDotNumber place cs = .ok (some n, rest) ↔
    n ≤ wordMax ∧ cs = '.' :: (Nat.toDigits 10 n ++ rest) ∧ StartsNoDigit rest := by
  unfold readDotNumber
  split
  case h_1 cs => simp [map_eq_ok_iff, readNumber_eq_ok_iff]
  case h_2 hdot =>
    refine iff_of_false nofun ?_
    rintro ⟨-, rfl, -⟩
    exact hdot _ rfl

theorem readDotNumber_toDigits (hn : n ≤ wordMax) (hrest : StartsNoDigit rest) :
    readDotNumber place ('.' :: (Nat.toDigits 10 n ++ rest)) = .ok (some n, rest) :=
  readDotNumber_eq_some_iff.2 ⟨hn, rfl, hrest⟩

theorem readDotNumber_eq_none_iff : readDotNumber place cs = .ok (none, rest) ↔
    rest = cs ∧ cs.head? ≠ some '.' := by
  unfold readDotNumber
  split
  case h_1 => simp [map_eq_ok_iff]
  case h_2 hdot =>
    have hhead : cs.head? ≠ some '.' := by
      intro h
      obtain ⟨tail, rfl⟩ := List.head?_eq_some_iff.1 h
      exact hdot tail rfl
    simp [hhead, eq_comm]

/-- Numbers are read where they stand. -/
theorem writesNumbers_of_readNumbers (h : readNumbers cs = .ok (major, minor, patch, rest)) :
    (major ≤ wordMax ∧ minor ≤ wordMax ∧ patch ≤ wordMax) ∧
      ∃ numbers, WritesNumbers major minor patch numbers ∧ cs = numbers ++ rest := by
  unfold readNumbers at h
  simp only [bind_eq_ok_iff, Prod.exists] at h
  obtain ⟨a, behind, hmajor, minor?, behind', hminor, h⟩ := h
  obtain ⟨ha, rfl, -⟩ := readNumber_eq_ok_iff.1 hmajor
  cases minor? with
  | none =>
    obtain ⟨rfl, -⟩ := readDotNumber_eq_none_iff.1 hminor
    cases h
    exact ⟨⟨ha, Nat.zero_le _, Nat.zero_le _⟩, _, .one _, rfl⟩
  | some b =>
    obtain ⟨hb, rfl, -⟩ := readDotNumber_eq_some_iff.1 hminor
    simp only [bind_eq_ok_iff, Prod.exists] at h
    obtain ⟨patch?, behind'', hpatch, h⟩ := h
    cases patch? with
    | none =>
      obtain ⟨rfl, -⟩ := readDotNumber_eq_none_iff.1 hpatch
      cases h
      exact ⟨⟨ha, hb, Nat.zero_le _⟩, _, .two _ _, by simp⟩
    | some c =>
      obtain ⟨hc, rfl, -⟩ := readDotNumber_eq_some_iff.1 hpatch
      cases h
      exact ⟨⟨ha, hb, hc⟩, _, .three _ _ _, by simp⟩

theorem startsNoDigit_dot {more : List Char} : StartsNoDigit ('.' :: more) := by
  simp [StartsNoDigit]

/-- A dash or a plus sign, or the end of the text. -/
def StartsSuffix (rest : List Char) : Prop :=
  ∀ c ∈ rest.head?, c = '-' ∨ c = '+'

theorem StartsSuffix.startsNoDigit (h : StartsSuffix rest) : StartsNoDigit rest := by
  intro c hc
  rcases h c hc with rfl | rfl <;> decide

theorem StartsSuffix.head?_ne (h : StartsSuffix rest) : rest.head? ≠ some '.' := by
  intro hc
  rcases h '.' hc with h | h <;> cases h

theorem startsSuffix_marked (v : Version) :
    StartsSuffix (marked '-' v.pre ++ marked '+' v.build) := by
  unfold StartsSuffix marked
  split <;> split <;> simp

theorem readNumbers_of_writesNumbers (h : WritesNumbers major minor patch numbers)
    (hmajor : major ≤ wordMax) (hminor : minor ≤ wordMax) (hpatch : patch ≤ wordMax)
    (hrest : StartsSuffix rest) :
    readNumbers (numbers ++ rest) = .ok (major, minor, patch, rest) := by
  have hnone (place : Place) : readDotNumber place rest = .ok (none, rest) :=
    readDotNumber_eq_none_iff.2 ⟨rfl, hrest.head?_ne⟩
  unfold readNumbers
  cases h with
  | one =>
    rw [readNumber_toDigits hmajor hrest.startsNoDigit]
    simp [bind, Except.bind, hnone, pure, Except.pure]
  | two =>
    rw [List.append_assoc, List.cons_append, readNumber_toDigits hmajor startsNoDigit_dot]
    simp [bind, Except.bind, readDotNumber_toDigits hminor hrest.startsNoDigit, hnone, pure,
      Except.pure]
  | three =>
    rw [List.append_assoc, List.cons_append, List.append_assoc, List.cons_append,
      readNumber_toDigits hmajor startsNoDigit_dot]
    simp [bind, Except.bind, readDotNumber_toDigits hminor startsNoDigit_dot,
      readDotNumber_toDigits hpatch hrest.startsNoDigit, pure, Except.pure]

/-! ## Readings of tags -/

/-- Nothing but a pre-release and build metadata is read behind the numbers. -/
theorem exists_readMarked_iff {make : List Identifier → List Identifier → Version} :
    (∃ pre behind, readMarked '-' .pre rest = .ok (pre, behind) ∧
      ∃ build left, readMarked '+' .build behind = .ok (build, left) ∧
        (if left.isEmpty then some (make pre build) else none) = some v) ↔
      ∃ pre build, (∀ i ∈ pre, i.IsValidIn .pre) ∧ (∀ i ∈ build, i.IsValidIn .build) ∧
        rest = marked '-' pre ++ marked '+' build ∧ make pre build = v := by
  have hplus (build : List Identifier) :
      EndsIdentifiers (marked '+' build) ∧ (marked '+' build).head? ≠ some '-' := by
    unfold marked EndsIdentifiers
    split <;> simp
  simp only [readMarked_eq_ok_iff]
  constructor
  · rintro ⟨pre, _, ⟨hpre, rfl, -⟩, build, left, ⟨hbuild, rfl, -⟩, hmake⟩
    cases left with
    | nil => exact ⟨pre, build, hpre, hbuild, by rw [List.append_nil], Option.some_inj.1 hmake⟩
    | cons => cases hmake
  · rintro ⟨pre, build, hpre, hbuild, rfl, rfl⟩
    refine ⟨pre, _, ⟨hpre, rfl, ?_⟩, build, [], ⟨hbuild, (List.append_nil _).symm, ?_⟩, rfl⟩
    · split
      · exact (hplus build).2
      · exact (hplus build).1
    · split <;> simp [EndsIdentifiers]

/-- **A tag is read as the version that it writes.** -/
theorem ofTagChars_eq_some_iff : ofTagChars cs = some v ↔ v.IsWrittenAs (dropV cs) := by
  unfold ofTagChars
  simp only [Option.bind_eq_bind, Option.bind_eq_some_iff, toOption_eq_some_iff, Prod.exists,
    exists_readMarked_iff]
  constructor
  · rintro ⟨major, minor, patch, rest, hnumbers, pre, build, hpre, hbuild, rfl, rfl⟩
    obtain ⟨⟨hmajor, hminor, hpatch⟩, hwrites⟩ := writesNumbers_of_readNumbers hnumbers
    exact ⟨⟨hmajor, hminor, hpatch, hpre, hbuild⟩, hwrites⟩
  · rintro ⟨hv, numbers, hwrites, htext⟩
    refine ⟨_, _, _, _, ?_, v.pre, v.build, hv.pre, hv.build, rfl, rfl⟩
    rw [htext]
    exact readNumbers_of_writesNumbers hwrites hv.major_le hv.minor_le hv.patch_le
      (startsSuffix_marked v)

/-! ## Full versions and zeros -/

/-- Read a full version, with all three numbers. -/
def readFull (cs : List Char) : Option Version := do
  let (major, cs) ← (readNumber .major cs).toOption
  let (minor, cs) ← (readDotNumber .minor cs).toOption
  let minor ← minor
  let (patch, cs) ← (readDotNumber .patch cs).toOption
  let patch ← patch
  let (pre, cs) ← (readMarked '-' .pre cs).toOption
  let (build, cs) ← (readMarked '+' .build cs).toOption
  if cs.isEmpty then some { major, minor, patch, pre, build } else none

/-- The zeros that so many numbers lack. -/
def zeros (count : Nat) : List Char :=
  (List.replicate (3 - count) ['.', '0']).flatten

/-- Add zeros to one or two numbers, in front of the first dash or plus sign. -/
def fillUp (cs : List Char) : Option (List Char) :=
  let core := cs.takeWhile fun c => c != '-' && c != '+'
  let suffix := cs.dropWhile fun c => c != '-' && c != '+'
  let parts := pieces (· == '.') core
  if 3 ≤ parts.length || parts.any (fun w => w.isEmpty || !w.all Char.isDigit) then none
  else some (core ++ zeros parts.length ++ suffix)

theorem readFull_eq_some_iff : readFull cs = some v ↔ v.IsValid ∧ cs = v.text := by
  unfold readFull
  simp only [Option.bind_eq_bind, Option.bind_eq_some_iff, toOption_eq_some_iff, Prod.exists,
    exists_readMarked_iff]
  constructor
  · rintro ⟨major, _, hmajor, _, _, hminor, minor, rfl, _, _, hpatch, patch, rfl, pre, build, hpre,
      hbuild, rfl, rfl⟩
    obtain ⟨ha, rfl, -⟩ := readNumber_eq_ok_iff.1 hmajor
    obtain ⟨hb, rfl, -⟩ := readDotNumber_eq_some_iff.1 hminor
    obtain ⟨hc, rfl, -⟩ := readDotNumber_eq_some_iff.1 hpatch
    exact ⟨⟨ha, hb, hc, hpre, hbuild⟩, rfl⟩
  · rintro ⟨hv, rfl⟩
    exact ⟨_, _, readNumber_toDigits hv.major_le startsNoDigit_dot, _, _,
      readDotNumber_toDigits hv.minor_le startsNoDigit_dot, _, rfl, _, _,
      readDotNumber_toDigits hv.patch_le (startsSuffix_marked v).startsNoDigit, _, rfl,
      v.pre, v.build, hv.pre, hv.build, rfl, rfl⟩

/-- Digits that are followed by no digit are told from what follows them. -/
theorem append_digits_inj {a b more : List Char} (ha : ∀ c ∈ a, c.isDigit = true)
    (hb : ∀ c ∈ b, c.isDigit = true) (hrest : StartsNoDigit rest) (hmore : StartsNoDigit more)
    (h : a ++ rest = b ++ more) : a = b ∧ rest = more := by
  have htake := congrArg (List.takeWhile Char.isDigit) h
  have hdrop := congrArg (List.dropWhile Char.isDigit) h
  rw [takeWhile_append_of_head? ha hrest, takeWhile_append_of_head? hb hmore] at htake
  rw [dropWhile_append_of_head? ha hrest, dropWhile_append_of_head? hb hmore] at hdrop
  exact ⟨htake, hdrop⟩

/-- One or two numbers are filled up with zeros, with leading zeros or without. -/
theorem fillUp_eq_some_iff {filled : List Char} : fillUp cs = some filled ↔
    ∃ parts suffix, (0 < parts.length ∧ parts.length < 3) ∧
      (∀ w ∈ parts, w ≠ [] ∧ ∀ c ∈ w, c.isDigit = true) ∧ StartsSuffix suffix ∧
      cs = joinWith ['.'] parts ++ suffix ∧
      filled = joinWith ['.'] parts ++ zeros parts.length ++ suffix := by
  unfold fillUp
  extract_lets core suffix parts
  have hdigits : parts.any (fun w => w.isEmpty || !w.all Char.isDigit) = false ↔
      ∀ w ∈ parts, w ≠ [] ∧ ∀ c ∈ w, c.isDigit = true := by
    simp
  constructor
  · intro h
    split at h
    · cases h
    · rename_i hguard
      rw [Bool.or_eq_true, not_or, Bool.not_eq_true, Bool.not_eq_true, hdigits] at hguard
      obtain ⟨hlength, hall⟩ := hguard
      cases h
      refine ⟨parts, suffix,
        ⟨List.length_pos_of_ne_nil (pieces_ne_nil _ _), by simpa using hlength⟩, hall,
        fun c hc => ?_, ?_, ?_⟩
      · have hstop := of_mem_head?_dropWhile hc
        simpa [imp_iff_not_or] using hstop
      · rw [joinWith_pieces]
        exact List.takeWhile_append_dropWhile.symm
      · rw [joinWith_pieces]
  · rintro ⟨written, behind, ⟨hpos, hlt⟩, hall, hbehind, hcs, rfl⟩
    have hfront : ∀ c ∈ joinWith ['.'] written, (c != '-' && c != '+') = true := by
      intro c hc
      rcases mem_joinWith hc with rfl | ⟨w, hw, hc⟩
      · decide
      · have hdigit := (hall w hw).2 c hc
        simp only [Bool.and_eq_true, bne_iff_ne]
        constructor <;> rintro rfl <;> cases hdigit
    have hstop : ∀ c ∈ behind.head?, (c != '-' && c != '+') = false := by
      intro c hc
      rcases hbehind c hc with rfl | rfl <;> rfl
    have hcore : core = joinWith ['.'] written := by
      simp only [core, hcs]
      exact takeWhile_append_of_head? hfront hstop
    have hsuffix : suffix = behind := by
      simp only [suffix, hcs]
      exact dropWhile_append_of_head? hfront hstop
    have hparts : parts = written := by
      simp only [parts, hcore]
      refine pieces_joinWith (List.ne_nil_of_length_pos hpos) fun w hw c hc => ?_
      rintro rfl
      cases (hall w hw).2 _ hc
    rw [← hparts] at hall hlt
    rw [hdigits.2 hall, Bool.or_false, if_neg (by simpa using hlt), hcore, hsuffix, hparts]

/-- A zero that stands alone is the number that is written there. -/
theorem zero_append_eq {more : List Char} (hrest : StartsNoDigit rest) (hmore : StartsNoDigit more)
    (h : '0' :: rest = Nat.toDigits 10 n ++ more) : n = 0 ∧ rest = more := by
  obtain ⟨hdigits, hbehind⟩ := append_digits_inj (a := ['0']) (by simp)
    (fun c => isDigit_of_mem_toDigits) hrest hmore h
  exact ⟨by rw [← decimalValue_toDigits n, ← hdigits]; rfl, hbehind⟩

/-- One or two numbers are filled up to three. -/
theorem fillUp_of_writesNumbers {suffix : List Char} (h : WritesNumbers major minor patch numbers)
    (hsuffix : StartsSuffix suffix) :
    let full := Nat.toDigits 10 major ++ '.' :: (Nat.toDigits 10 minor ++ '.' ::
      (Nat.toDigits 10 patch ++ suffix))
    numbers ++ suffix = full ∨
      (numbers ++ suffix ≠ full ∧ fillUp (numbers ++ suffix) = some full) := by
  intro full
  have hdigits {n : Nat} : Nat.toDigits 10 n ≠ [] ∧ ∀ c ∈ Nat.toDigits 10 n, c.isDigit = true :=
    ⟨Nat.toDigits_ne_nil, fun c => isDigit_of_mem_toDigits⟩
  cases h with
  | three => exact .inl (by simp [full])
  | two =>
    refine .inr ⟨fun h => ?_, fillUp_eq_some_iff.2
      ⟨[Nat.toDigits 10 major, Nat.toDigits 10 minor], suffix, by simp, ?_, hsuffix, ?_, ?_⟩⟩
    · have hlength := congrArg List.length h
      simp [full] at hlength
      omega
    · exact List.forall_mem_cons.2 ⟨hdigits, List.forall_mem_singleton.2 hdigits⟩
    · simp [joinWith]
    · simp [full, joinWith, zeros]
  | one =>
    refine .inr ⟨fun h => ?_, fillUp_eq_some_iff.2
      ⟨[Nat.toDigits 10 major], suffix, by simp, ?_, hsuffix, ?_, ?_⟩⟩
    · have hlength := congrArg List.length h
      simp [full] at hlength
      omega
    · exact List.forall_mem_singleton.2 hdigits
    · simp [joinWith]
    · simp [full, joinWith, zeros]

/-- What is filled up to three numbers is one or two of them. -/
theorem writesNumbers_of_fillUp {suffix : List Char} (hsuffix : StartsSuffix suffix)
    (h : fillUp cs = some (Nat.toDigits 10 major ++ '.' :: (Nat.toDigits 10 minor ++ '.' ::
      (Nat.toDigits 10 patch ++ suffix)))) :
    ∃ numbers, WritesNumbers major minor patch numbers ∧ cs = numbers ++ suffix := by
  have hdigit {n : Nat} : ∀ c ∈ Nat.toDigits 10 n, c.isDigit = true :=
    fun c => isDigit_of_mem_toDigits
  obtain ⟨parts, behind, hlength, hparts, hbehind, rfl, hfull⟩ := fillUp_eq_some_iff.1 h
  match parts with
  | [] => cases hlength.1
  | [a] =>
    have ha := (hparts a (by simp)).2
    simp only [joinWith, List.append_assoc] at hfull
    obtain ⟨rfl, hrest⟩ :=
      append_digits_inj hdigit ha startsNoDigit_dot startsNoDigit_dot hfull
    obtain ⟨rfl, hrest'⟩ :=
      zero_append_eq startsNoDigit_dot startsNoDigit_dot (List.cons.inj hrest).2.symm
    obtain ⟨rfl, rfl⟩ := zero_append_eq hbehind.startsNoDigit hsuffix.startsNoDigit
      (List.cons.inj hrest').2
    exact ⟨_, .one _, rfl⟩
  | [a, b] =>
    have ha := (hparts a (by simp)).2
    have hb := (hparts b (by simp)).2
    simp only [joinWith, List.append_assoc] at hfull
    obtain ⟨rfl, hrest⟩ :=
      append_digits_inj hdigit ha startsNoDigit_dot startsNoDigit_dot hfull
    obtain ⟨rfl, hrest'⟩ :=
      append_digits_inj hdigit hb startsNoDigit_dot startsNoDigit_dot (List.cons.inj hrest).2
    obtain ⟨rfl, rfl⟩ := zero_append_eq hbehind.startsNoDigit hsuffix.startsNoDigit
      (List.cons.inj hrest').2.symm
    exact ⟨_, .two _ _, by simp [joinWith]⟩
  | _ :: _ :: _ :: _ =>
    simp only [List.length_cons] at hlength
    omega

/-- **The lenient reading is the strict one** of the tag or, if there is none, of the tag filled up
with zeros. -/
theorem ofTagChars_eq_or (cs : List Char) :
    ofTagChars cs = (readFull (dropV cs)).or ((fillUp (dropV cs)).bind readFull) := by
  ext v
  rw [ofTagChars_eq_some_iff, Option.or_eq_some_iff, Option.bind_eq_some_iff, readFull_eq_some_iff]
  have hsuffix := startsSuffix_marked v
  constructor
  · rintro ⟨hv, numbers, hwrites, hcs⟩
    rcases fillUp_of_writesNumbers hwrites hsuffix with hfull | ⟨hshort, hfill⟩
    · exact .inl ⟨hv, hcs.trans hfull⟩
    · refine .inr ⟨?_, v.text, hcs ▸ hfill, readFull_eq_some_iff.2 ⟨hv, rfl⟩⟩
      cases hw : readFull (dropV cs) with
      | none => rfl
      | some w =>
        obtain ⟨hvalid, htext⟩ := readFull_eq_some_iff.1 hw
        have hthree : w.IsWrittenAs (dropV cs) := ⟨hvalid, _, .three _ _ _, by simp [htext, text]⟩
        have heq := (ofTagChars_eq_some_iff.2 hthree).symm.trans
          (ofTagChars_eq_some_iff.2 ⟨hv, numbers, hwrites, hcs⟩)
        obtain rfl := Option.some_inj.1 heq
        exact absurd (hcs.symm.trans htext) hshort
  · rintro (⟨hv, hcs⟩ | ⟨-, filled, hfill, hread⟩)
    · exact ⟨hv, _, .three _ _ _, by simp [hcs, text]⟩
    · obtain ⟨hv, rfl⟩ := readFull_eq_some_iff.1 hread
      exact ⟨hv, writesNumbers_of_fillUp hsuffix hfill⟩

/-! ## Main statement -/

/-- **Tags that are versions.** A tag is read as a version exactly if, behind a `v` at most, it
gives one to three numbers of the version, its pre-release and its build metadata. So the text of
what has been read is read as the same again. And the same comes of reading full versions only, first
of what is behind the `v` and, if that is none, of what it is when filled up with zeros. -/
theorem ofTag_eq_some_iff (tag : String) (v : Version) :
    (ofTag tag = some v ↔ v.IsWrittenAs (dropV tag.toList)) ∧
      (ofTag tag = some v → ofTag v.render = some v) ∧
      ofTag tag =
        (readFull (dropV tag.toList)).or ((fillUp (dropV tag.toList)).bind readFull) := by
  refine ⟨ofTagChars_eq_some_iff, fun h => ofTagChars_eq_some_iff.2 ?_, ofTagChars_eq_or _⟩
  obtain ⟨hv, -⟩ := ofTagChars_eq_some_iff.1 h
  obtain ⟨d, ds, hdigits, hdigit⟩ := exists_toDigits_eq_cons v.major
  have hdrop : dropV v.text = v.text := by
    unfold dropV
    split
    case h_1 cs htext =>
      rw [text, hdigits] at htext
      obtain rfl := (List.cons.inj htext).1
      cases hdigit
    case h_2 => rfl
  rw [toList_render, hdrop]
  exact ⟨hv, _, .three _ _ _, by simp [text]⟩

/-- A tag with two numbers is a version, and so is the full version that it stands for. -/
theorem ofTag_eq_some_iff_of_two_numbers :
    let v : Version := ⟨1, 25, 0, ["alpine".toList, "3".toList], ["01".toList]⟩
    ofTag "v1.25-alpine.3+01" = some v ∧ v.render = "1.25.0-alpine.3+01" ∧
      ofTag v.render = some v := by
  intro v
  have written : v.IsWrittenAs "1.25-alpine.3+01".toList :=
    ⟨by decide, "1.25".toList, .two 1 25, by decide⟩
  have read := (ofTag_eq_some_iff "v1.25-alpine.3+01" v).1.2 written
  exact ⟨read, by decide, (ofTag_eq_some_iff "v1.25-alpine.3+01" v).2.1 read⟩

end ImageGate.Version
