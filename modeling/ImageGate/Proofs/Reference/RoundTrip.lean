import ImageGate.Proofs.Reference.Grammar
import ImageGate.Reference.Parser

/-!
# Reading and printing references

The reader accepts exactly the texts that well-formed references are printed as, and gives each of
them the one reference that it is printed from (`parse_eq_ok_iff`).

Printing puts three separators into a text, and the reader has to find them again. It finds the `@`
because names and tags have none, the colon of the tag because a tag has neither colon nor slash and
the colon of a port is followed by a slash, and the slash behind the domain because domains have
none. Whether there is a domain at all is told by how the part before the first slash looks, so a
path without a domain must not look as if it had one (`WellFormed.first`).
-/

namespace ImageGate.Reference

open Text

/-- A reference whose parts follow the grammar, and whose path does not pass for a domain. -/
structure WellFormed (r : Reference) : Prop where
  domain : r.domain = "" ∨ (IsDomain r.domain.toList ∧
    ('.' ∈ r.domain.toList ∨ ':' ∈ r.domain.toList ∨ r.domain = "localhost"))
  path : IsPath r.path.toList
  /-- Without a domain, the first of several components must not look like one. -/
  first : r.domain = "" → ∀ first rest, r.path.toList = first ++ '/' :: rest → '/' ∉ first →
    '.' ∉ first ∧ first ≠ "localhost".toList
  length_le : r.name.utf8ByteSize ≤ 255
  tag : ∀ t ∈ r.tag, IsTag t.toList
  digest : ∀ d ∈ r.digest, IsDigest d.toList

variable {cs rest name domain path : List Char} {tag digest : Option (List Char)} {r : Reference}

/-! ## The cuts -/

theorem cutDigest_eq_iff : cutDigest cs = (rest, digest) ↔
    cs = rest ++ digest.elim [] ('@' :: ·) ∧ '@' ∉ rest := by
  unfold cutDigest
  constructor
  · intro h
    split at h
    case h_1 hcut =>
      cases h
      exact cutFirst?_eq_some_iff.1 hcut
    case h_2 hcut =>
      cases h
      exact ⟨(List.append_nil _).symm, cutFirst?_eq_none_iff.1 hcut⟩
  · rintro ⟨rfl, hrest⟩
    cases digest with
    | some digest => rw [Option.elim_some, cutFirst?_append hrest]
    | none => rw [Option.elim_none, List.append_nil, cutFirst?_eq_none_iff.2 hrest]

theorem cutTag_eq_some_iff {t : List Char} : cutTag cs = (name, some t) ↔
    cs = name ++ ':' :: t ∧ ':' ∉ t ∧ '/' ∉ t := by
  unfold cutTag
  constructor
  · intro h
    split at h
    case h_1 hcut =>
      obtain ⟨rfl, hcolon⟩ := cutLast?_eq_some_iff.1 hcut
      split at h
      case isTrue => cases h
      case isFalse hslash =>
        cases h
        exact ⟨rfl, hcolon, by simpa using hslash⟩
    case h_2 => cases h
  · rintro ⟨rfl, hcolon, hslash⟩
    rw [cutLast?_append hcolon]
    simp [hslash]

/-- No tag is found exactly if a slash follows the last colon. -/
theorem cutTag_eq_none_iff : cutTag cs = (name, none) ↔
    cs = name ∧ ∀ a b, cs = a ++ ':' :: b → ':' ∉ b → '/' ∈ b := by
  unfold cutTag
  constructor
  · intro h
    split at h
    case h_1 hcut =>
      split at h
      case isTrue hslash =>
        cases h
        refine ⟨rfl, fun a b heq hb => ?_⟩
        rw [cutLast?_eq_some_iff.2 ⟨heq, hb⟩] at hcut
        cases hcut
        simpa using hslash
      case isFalse => cases h
    case h_2 hcut =>
      cases h
      refine ⟨rfl, fun a b heq _ => ?_⟩
      exact absurd (heq ▸ cutLast?_eq_none_iff.1 hcut) (by simp)
  · rintro ⟨rfl, hslash⟩
    split
    case h_1 a b hcut =>
      obtain ⟨heq, hb⟩ := cutLast?_eq_some_iff.1 hcut
      simp [hslash a b heq hb]
    case h_2 => rfl

theorem looksLikeDomain_iff :
    looksLikeDomain cs = true ↔ '.' ∈ cs ∨ ':' ∈ cs ∨ cs = "localhost".toList := by
  simp [looksLikeDomain, or_assoc]

theorem cutDomain_eq_iff : cutDomain cs = (domain, path) ↔
    (cs = domain ++ '/' :: path ∧ '/' ∉ domain ∧ looksLikeDomain domain = true) ∨
    (domain = [] ∧ cs = path ∧
      ∀ first rest, cs = first ++ '/' :: rest → '/' ∉ first → looksLikeDomain first = false) := by
  unfold cutDomain
  constructor
  · intro h
    split at h
    case h_1 first rest hcut =>
      split at h
      case isTrue hlooks =>
        cases h
        obtain ⟨rfl, hslash⟩ := cutFirst?_eq_some_iff.1 hcut
        exact .inl ⟨rfl, hslash, hlooks⟩
      case isFalse hlooks =>
        cases h
        refine .inr ⟨rfl, rfl, fun a b heq ha => ?_⟩
        rw [cutFirst?_eq_some_iff.2 ⟨heq, ha⟩] at hcut
        cases hcut
        exact Bool.eq_false_iff.2 hlooks
    case h_2 hcut =>
      cases h
      refine .inr ⟨rfl, rfl, fun a b heq _ => ?_⟩
      exact absurd (heq ▸ cutFirst?_eq_none_iff.1 hcut) (by simp)
  · rintro (⟨rfl, hslash, hlooks⟩ | ⟨rfl, rfl, hnone⟩)
    · rw [cutFirst?_append hslash]
      exact if_pos hlooks
    · split
      case h_1 a b hcut =>
        obtain ⟨heq, ha⟩ := cutFirst?_eq_some_iff.1 hcut
        rw [hnone a b heq ha]
        rfl
      case h_2 => rfl

/-! ## Reading -/

theorem IsPath.ne_nil (h : IsPath cs) : cs ≠ [] := by
  have hcomponent {w : List Char} (hw : IsComponent w) : w ≠ [] := by
    obtain ⟨c, rest, rfl, -⟩ := hw.exists_cons
    exact nofun
  cases h with
  | one hw => exact hcomponent hw
  | more => simp

theorem not_isUpper_of_isNameChar {c : Char} (h : isNameChar c = true) : c.isUpper = false := by
  refine Bool.eq_false_iff.2 fun hupper => ?_
  obtain ⟨hA, hZ⟩ := of_isUpper hupper
  rcases isNameChar_iff.1 h with h | h
  · exact absurd (UInt32.le_trans (of_isLower h).1 hZ) (by decide)
  · exact absurd (UInt32.le_trans hA (of_isDigit h).2) (by decide)

theorem IsPath.not_isUpper (h : IsPath cs) : cs.any Char.isUpper = false := by
  rw [List.any_eq_false]
  intro c hc
  rw [Bool.not_eq_true]
  rcases h.chars c hc with hc | rfl | rfl | rfl | rfl
  · exact not_isUpper_of_isNameChar hc
  · rfl
  · rfl
  · rfl
  · rfl

theorem ite_error_eq_ok_iff {p : Prop} [Decidable p] {fault : Fault} {x : Except Fault Reference} :
    (if p then .error fault else x) = .ok r ↔ ¬ p ∧ x = .ok r := by
  by_cases hp : p
  · simp [hp]
  · simp [hp]

theorem mk_ofList_eq_iff : ({ domain := String.ofList domain, path := String.ofList path
                              tag := tag.map String.ofList
                              digest := digest.map String.ofList } : Reference) = r ↔
    domain = r.domain.toList ∧ path = r.path.toList ∧ tag = r.tag.map String.toList ∧
      digest = r.digest.map String.toList := by
  constructor
  · rintro rfl
    simp [Function.comp_def]
  · rintro ⟨rfl, rfl, rfl, rfl⟩
    simp [Function.comp_def]

theorem forall_mem_map_toList_iff {o : Option String} {Holds : List Char → Prop} :
    (∀ x ∈ o.map String.toList, Holds x) ↔ ∀ s ∈ o, Holds s.toList := by
  cases o <;> simp

/-- What the reader checks once the text has been cut into the parts of a reference. -/
theorem ofChars_eq_ok_iff : ofChars cs = .ok r ↔ ∃ rest name,
    cutDigest cs = (rest, r.digest.map String.toList) ∧
    cutTag rest = (name, r.tag.map String.toList) ∧
    cutDomain name = (r.domain.toList, r.path.toList) ∧
    byteLength name ≤ 255 ∧ (r.domain = "" ∨ IsDomain r.domain.toList) ∧ IsPath r.path.toList ∧
    (∀ t ∈ r.tag, IsTag t.toList) ∧ ∀ d ∈ r.digest, IsDigest d.toList := by
  have hchecks {rest name domain path : List Char} {tag digest : Option (List Char)}
      (hdigest : cutDigest cs = (rest, digest)) (htag : cutTag rest = (name, tag))
      (hdomain : cutDomain name = (domain, path)) : ofChars cs = .ok r ↔
        cs ≠ [] ∧ (∀ d ∈ digest, IsDigest d) ∧ (∀ t ∈ tag, IsTag t) ∧ byteLength name ≤ 255 ∧
        (domain = [] ∨ IsDomain domain) ∧ path.any Char.isUpper = false ∧ IsPath path ∧
        domain = r.domain.toList ∧ path = r.path.toList ∧ tag = r.tag.map String.toList ∧
        digest = r.digest.map String.toList := by
    simp only [ofChars, hdigest, htag, hdomain, ite_error_eq_ok_iff, Bool.not_eq_true,
      Bool.not_eq_true', Bool.not_eq_false, Nat.not_lt, Bool.or_eq_true, Option.all_eq_true,
      isDigest_iff, isTag_iff, isDomain_iff, isPath_iff, Except.ok.injEq, List.isEmpty_iff,
      mk_ofList_eq_iff, nameMax, ne_eq, Option.mem_def]
  constructor
  · intro h
    cases hdigest : cutDigest cs with | mk rest digest
    cases htag : cutTag rest with | mk name tag
    cases hdomain : cutDomain name with | mk domain path
    obtain ⟨-, hd, ht, hlength, hdom, -, hpath, rfl, rfl, rfl, rfl⟩ :=
      (hchecks hdigest htag hdomain).1 h
    rw [forall_mem_map_toList_iff] at hd ht
    rw [String.toList_eq_nil_iff] at hdom
    exact ⟨rest, name, rfl, htag, hdomain, hlength, hdom, hpath, ht, hd⟩
  · rintro ⟨rest, name, hdigest, htag, hdomain, hlength, hdom, hpath, ht, hd⟩
    rw [hchecks hdigest htag hdomain, forall_mem_map_toList_iff, forall_mem_map_toList_iff,
      String.toList_eq_nil_iff]
    refine ⟨?_, hd, ht, hlength, hdom, hpath.not_isUpper, hpath, rfl, rfl, rfl, rfl⟩
    rintro rfl
    obtain rfl : [] = rest := congrArg Prod.fst hdigest
    obtain rfl : [] = name := congrArg Prod.fst htag
    exact hpath.ne_nil (congrArg Prod.snd hdomain).symm

/-! ## Printing -/

theorem toList_name_of_eq (h : r.domain = "") : r.name.toList = r.path.toList := by
  simp [name, h]

theorem toList_name_of_ne (h : r.domain ≠ "") :
    r.name.toList = r.domain.toList ++ '/' :: r.path.toList := by
  simp [name, h]

theorem toList_render (r : Reference) : r.render.toList =
    (r.name.toList ++ (r.tag.map String.toList).elim [] (':' :: ·)) ++
      (r.digest.map String.toList).elim [] ('@' :: ·) := by
  obtain ⟨domain, path, tag, digest⟩ := r
  cases tag <;> cases digest <;> simp [render]

/-! ## What is printed is read -/

theorem WellFormed.slash_not_mem_domain (h : WellFormed r) : '/' ∉ r.domain.toList := by
  rcases h.domain with hempty | ⟨hdomain, -⟩
  · simp [hempty]
  · exact not_mem_of_forall hdomain.chars (by decide)

theorem WellFormed.at_not_mem_name (h : WellFormed r) : '@' ∉ r.name.toList := by
  have hpath : '@' ∉ r.path.toList := not_mem_of_forall h.path.chars (by decide)
  by_cases hempty : r.domain = ""
  · rwa [toList_name_of_eq hempty]
  · have hdomain : '@' ∉ r.domain.toList :=
      not_mem_of_forall (h.domain.resolve_left hempty).1.chars (by decide)
    rw [toList_name_of_ne hempty]
    simp [hdomain, hpath]

theorem WellFormed.cutDigest_render (h : WellFormed r) :
    cutDigest r.render.toList = (r.name.toList ++ (r.tag.map String.toList).elim [] (':' :: ·),
      r.digest.map String.toList) := by
  refine cutDigest_eq_iff.2 ⟨toList_render r, ?_⟩
  cases htag : r.tag with
  | none => simpa using h.at_not_mem_name
  | some t =>
    have ht : '@' ∉ t.toList := not_mem_of_forall (h.tag t htag).chars (by decide)
    simp [h.at_not_mem_name, ht]

/-- A colon in a name belongs to a port, and a slash follows it. -/
theorem WellFormed.slash_mem_of_name_eq (h : WellFormed r) {a b : List Char}
    (hname : r.name.toList = a ++ ':' :: b) : '/' ∈ b := by
  have hpath : ':' ∉ r.path.toList := not_mem_of_forall h.path.chars (by decide)
  by_cases hempty : r.domain = ""
  · rw [toList_name_of_eq hempty] at hname
    exact absurd (hname ▸ hpath) (by simp)
  · rw [toList_name_of_ne hempty, List.append_eq_append_iff] at hname
    rcases hname with ⟨c, -, hc⟩ | ⟨c, -, hc⟩
    · -- The colon cannot stand behind the slash.
      have hmem : ':' ∈ '/' :: r.path.toList := by rw [hc]; simp
      exact absurd ((List.mem_cons.1 hmem).resolve_left (by decide)) hpath
    · have hmem : '/' ∈ ':' :: b := by rw [hc]; simp
      exact (List.mem_cons.1 hmem).resolve_left (by decide)

theorem WellFormed.cutTag_name (h : WellFormed r) :
    cutTag (r.name.toList ++ (r.tag.map String.toList).elim [] (':' :: ·)) =
      (r.name.toList, r.tag.map String.toList) := by
  cases htag : r.tag with
  | none =>
    refine cutTag_eq_none_iff.2 ⟨List.append_nil _, fun a b heq _ => ?_⟩
    exact h.slash_mem_of_name_eq ((List.append_nil _).symm.trans heq)
  | some t =>
    have ht := (h.tag t htag).chars
    refine cutTag_eq_some_iff.2 ⟨rfl, ?_, ?_⟩
    · exact not_mem_of_forall ht (by decide)
    · exact not_mem_of_forall ht (by decide)

theorem WellFormed.cutDomain_name (h : WellFormed r) :
    cutDomain r.name.toList = (r.domain.toList, r.path.toList) := by
  refine cutDomain_eq_iff.2 ?_
  by_cases hempty : r.domain = ""
  · refine .inr ⟨by rw [hempty]; rfl, toList_name_of_eq hempty, fun first rest heq hslash => ?_⟩
    rw [toList_name_of_eq hempty] at heq
    obtain ⟨hdot, hlocal⟩ := h.first hempty first rest heq hslash
    refine Bool.eq_false_iff.2 fun hlooks => ?_
    have hcolon : ':' ∉ r.path.toList := not_mem_of_forall h.path.chars (by decide)
    rcases looksLikeDomain_iff.1 hlooks with hmem | hmem | hmem
    · exact hdot hmem
    · exact hcolon (heq ▸ List.mem_append_left _ hmem)
    · exact hlocal hmem
  · refine .inl ⟨toList_name_of_ne hempty, h.slash_not_mem_domain, looksLikeDomain_iff.2 ?_⟩
    refine (h.domain.resolve_left hempty).2.imp_right fun h => h.imp_right ?_
    exact congrArg String.toList

theorem WellFormed.parse_render (h : WellFormed r) : parse r.render = .ok r := by
  refine ofChars_eq_ok_iff.2 ⟨_, _, h.cutDigest_render, h.cutTag_name, h.cutDomain_name, ?_,
    h.domain.imp_right And.left, h.path, h.tag, h.digest⟩
  rw [byteLength_toList]
  exact h.length_le

/-! ## What is read is printed -/

theorem eq_of_cutTag_eq (h : cutTag cs = (name, tag)) : cs = name ++ tag.elim [] (':' :: ·) := by
  cases tag with
  | none => exact (cutTag_eq_none_iff.1 h).1.trans (List.append_nil _).symm
  | some t => exact (cutTag_eq_some_iff.1 h).1

theorem toList_name_of_cutDomain (h : cutDomain name = (r.domain.toList, r.path.toList)) :
    r.name.toList = name := by
  rcases cutDomain_eq_iff.1 h with ⟨rfl, -, hlooks⟩ | ⟨hempty, rfl, -⟩
  · refine toList_name_of_ne fun hempty => ?_
    rw [hempty] at hlooks
    cases hlooks
  · exact toList_name_of_eq (String.toList_eq_nil_iff.1 hempty)

theorem eq_render_and_wellFormed_of_parse {s : String} (h : parse s = .ok r) :
    s = r.render ∧ WellFormed r := by
  obtain ⟨rest, name, hdigest, htag, hdomain, hlength, hdom, hpath, ht, hd⟩ :=
    ofChars_eq_ok_iff.1 h
  have hname : r.name.toList = name := toList_name_of_cutDomain hdomain
  refine ⟨String.toList_inj.1 ?_, ⟨?_, hpath, ?_, ?_, ht, hd⟩⟩
  · rw [toList_render, hname, ← eq_of_cutTag_eq htag]
    exact (cutDigest_eq_iff.1 hdigest).1
  · by_cases hempty : r.domain = ""
    · exact .inl hempty
    · refine .inr ⟨hdom.resolve_left hempty, ?_⟩
      rcases cutDomain_eq_iff.1 hdomain with ⟨-, -, hlooks⟩ | ⟨hnil, -⟩
      · refine (looksLikeDomain_iff.1 hlooks).imp_right fun h => h.imp_right ?_
        exact String.toList_inj.1
      · exact absurd (String.toList_eq_nil_iff.1 hnil) hempty
  · intro hempty first tail heq hslash
    rcases cutDomain_eq_iff.1 hdomain with ⟨-, -, hlooks⟩ | ⟨-, rfl, hnone⟩
    · rw [hempty] at hlooks
      cases hlooks
    · have hlooks : ¬ looksLikeDomain first = true :=
        Bool.eq_false_iff.1 (hnone first tail heq hslash)
      rw [looksLikeDomain_iff, not_or, not_or] at hlooks
      exact ⟨hlooks.1, hlooks.2.2⟩
  · rwa [← byteLength_toList, hname]

/-! ## Main statement -/

/-- **The reader accepts exactly what is printed, and loses nothing.** A text is read as a reference
exactly if it is what the reference is printed as and the reference is well-formed. So no two
well-formed references are printed alike, and what has been read is read again from its print. -/
theorem parse_eq_ok_iff :
    (∀ s r, parse s = .ok r ↔ s = r.render ∧ WellFormed r) ∧
      (∀ r t, WellFormed r → WellFormed t → r.render = t.render → r = t) ∧
      ∀ s r, parse s = .ok r → parse r.render = .ok r := by
  refine ⟨fun s r => ⟨eq_render_and_wellFormed_of_parse, ?_⟩, fun r t hr ht heq => ?_,
    fun s r h => ?_⟩
  · rintro ⟨rfl, hr⟩
    exact hr.parse_render
  · have hread : parse r.render = .ok t := heq ▸ ht.parse_render
    rw [hr.parse_render] at hread
    cases hread
    rfl
  · obtain ⟨rfl, -⟩ := eq_render_and_wellFormed_of_parse h
    exact h

/-- The first colon belongs to the port and the second one to the tag. -/
theorem parse_eq_ok_iff_of_port : ∃ r, parse "localhost:5000/app:v1" = .ok r ∧
    r.domain = "localhost:5000" ∧ r.path = "app" ∧ r.tag = some "v1" ∧ WellFormed r ∧
    parse r.render = .ok r := by
  have hread : parse "localhost:5000/app:v1" =
      .ok { domain := "localhost:5000", path := "app", tag := some "v1", digest := none } := by
    decide
  obtain ⟨hiff, -, hagain⟩ := parse_eq_ok_iff
  exact ⟨_, hread, rfl, rfl, rfl, ((hiff _ _).1 hread).2, hagain _ _ hread⟩

end ImageGate.Reference
