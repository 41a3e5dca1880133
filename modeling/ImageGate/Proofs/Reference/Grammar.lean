import ImageGate.Proofs.Text.Cut
import ImageGate.Reference.Grammar

/-!
# The grammar of image references, rule by rule

Each part of a reference as its rules have it: parts joined by separators, and what the smallest
parts are made of. The checks of `ImageGate.Reference.Grammar` cut a text up and look at the pieces;
each of them accepts exactly what its rule derives.
-/

namespace ImageGate.Reference

open Text

variable {c : Char} {cs : List Char}

/-! ## Letters and digits -/

theorem of_isUpper (h : c.isUpper = true) : 'A'.val ≤ c.val ∧ c.val ≤ 'Z'.val :=
  of_decide_eq_true h

theorem of_isLower (h : c.isLower = true) : 'a'.val ≤ c.val ∧ c.val ≤ 'z'.val := by
  have h : (decide (c.val ≥ 'a'.val) && decide (c.val ≤ 'z'.val)) = true := h
  rwa [Bool.and_eq_true, decide_eq_true_eq, decide_eq_true_eq] at h

theorem of_isDigit (h : c.isDigit = true) : '0'.val ≤ c.val ∧ c.val ≤ '9'.val := by
  have h : (decide (c.val ≥ '0'.val) && decide (c.val ≤ '9'.val)) = true := h
  rwa [Bool.and_eq_true, decide_eq_true_eq, decide_eq_true_eq] at h

theorem isAlphanum_of_isDigit (h : c.isDigit = true) : c.isAlphanum = true := by
  show (c.isAlpha || c.isDigit) = true
  rw [h, Bool.or_true]

theorem le_of_isAlphanum (h : c.isAlphanum = true) : c.val ≤ 127 := by
  have h : (c.isUpper || c.isLower || c.isDigit) = true := h
  rw [Bool.or_eq_true, Bool.or_eq_true] at h
  rcases h with (h | h) | h
  · exact UInt32.le_trans (of_isUpper h).2 (by decide)
  · exact UInt32.le_trans (of_isLower h).2 (by decide)
  · exact UInt32.le_trans (of_isDigit h).2 (by decide)

/-! ## Domains -/

/-- Letters, digits and dashes, with a letter or digit at both ends. -/
structure IsLabel (cs : List Char) : Prop where
  first : ∃ c ∈ cs.head?, c.isAlphanum = true
  last : ∃ c ∈ cs.getLast?, c.isAlphanum = true
  chars : ∀ c ∈ cs, c.isAlphanum = true ∨ c = '-'

def IsHost : List Char → Prop :=
  Joined IsLabel (· = '.')

def IsPort (cs : List Char) : Prop :=
  cs ≠ [] ∧ ∀ c ∈ cs, c.isDigit = true

/-- A host, or a host and a port with a colon between them. -/
inductive IsDomain : List Char → Prop
  | host {host : List Char} : IsHost host → IsDomain host
  | port {host port : List Char} : IsHost host → IsPort port → IsDomain (host ++ ':' :: port)

theorem isLabel_iff : isLabel cs = true ↔ IsLabel cs := by
  simp only [isLabel, Bool.and_eq_true, Option.any_eq_true, List.all_eq_true, Bool.or_eq_true,
    beq_iff_eq]
  constructor
  · rintro ⟨⟨hfirst, hlast⟩, hchars⟩
    exact ⟨hfirst, hlast, hchars⟩
  · rintro ⟨hfirst, hlast, hchars⟩
    exact ⟨⟨hfirst, hlast⟩, hchars⟩

theorem IsLabel.ne_dot (h : IsLabel cs) : ∀ c ∈ cs, c ≠ '.' := by
  rintro c hc rfl
  exact absurd (h.chars _ hc) (by decide)

theorem isHost_iff : isHost cs = true ↔ IsHost cs := by
  rw [isHost, List.all_eq_true]
  refine (forall₂_congr fun _ _ => isLabel_iff).trans (joined_iff (fun c => ?_) ?_).symm
  · exact beq_iff_eq
  · exact fun w hw => hw.ne_dot

theorem IsHost.chars (h : IsHost cs) : ∀ c ∈ cs, c.isAlphanum = true ∨ c = '-' ∨ c = '.' := by
  refine Joined.forall_mem (fun w hw c hc => ?_) (fun c hc => .inr (.inr hc)) h
  exact (hw.chars c hc).imp_right .inl

theorem IsHost.colon_not_mem (h : IsHost cs) : ':' ∉ cs :=
  not_mem_of_forall h.chars (by decide)

theorem isPort_iff : isPort cs = true ↔ IsPort cs := by
  simp [isPort, IsPort]

theorem isDomain_iff : isDomain cs = true ↔ IsDomain cs := by
  unfold isDomain
  constructor
  · intro h
    split at h
    case h_1 host port hcut =>
      obtain ⟨rfl, -⟩ := cutFirst?_eq_some_iff.1 hcut
      rw [Bool.and_eq_true, isHost_iff, isPort_iff] at h
      exact .port h.1 h.2
    case h_2 => exact .host (isHost_iff.1 h)
  · intro h
    cases h with
    | host hhost =>
      rw [cutFirst?_eq_none_iff.2 hhost.colon_not_mem]
      exact isHost_iff.2 hhost
    | port hhost hport =>
      rw [cutFirst?_append hhost.colon_not_mem]
      show (isHost _ && isPort _) = true
      rw [Bool.and_eq_true, isHost_iff, isPort_iff]
      exact ⟨hhost, hport⟩

theorem IsDomain.chars (h : IsDomain cs) :
    ∀ c ∈ cs, c.isAlphanum = true ∨ c = '-' ∨ c = '.' ∨ c = ':' := by
  cases h with
  | host hhost =>
    intro c hc
    exact (hhost.chars c hc).imp_right fun h => h.imp_right .inl
  | port hhost hport =>
    rw [List.forall_mem_append, List.forall_mem_cons]
    refine ⟨fun c hc => ?_, by decide, fun c hc => .inl ?_⟩
    · exact (hhost.chars c hc).imp_right fun h => h.imp_right .inl
    · exact isAlphanum_of_isDigit (hport.2 c hc)

/-! ## Paths -/

/-- Lower-case letters and digits, at least one. -/
def IsRun (cs : List Char) : Prop :=
  cs ≠ [] ∧ ∀ c ∈ cs, c.isLower = true ∨ c.isDigit = true

/-- What joins two runs: a dot, one or two underscores, or dashes. -/
inductive IsJoiner : List Char → Prop
  | dot : IsJoiner ['.']
  | underscore : IsJoiner ['_']
  | underscores : IsJoiner ['_', '_']
  | dashes (n : Nat) : IsJoiner (List.replicate (n + 1) '-')

/-- Runs with joiners between them. -/
inductive IsComponent : List Char → Prop
  | run {run : List Char} : IsRun run → IsComponent run
  | join {run joiner rest : List Char} : IsRun run → IsJoiner joiner → IsComponent rest →
      IsComponent (run ++ joiner ++ rest)

def IsPath : List Char → Prop :=
  Joined IsComponent (· = '/')

theorem isNameChar_iff : isNameChar c = true ↔ c.isLower = true ∨ c.isDigit = true := by
  simp [isNameChar]

theorem isJoiner_iff : isJoiner cs = true ↔ cs = [] ∨ IsJoiner cs := by
  simp only [isJoiner, Bool.or_eq_true, beq_iff_eq, List.all_eq_true]
  constructor
  · rintro (((rfl | rfl) | rfl) | hdashes)
    · exact .inr .dot
    · exact .inr .underscore
    · exact .inr .underscores
    · rw [List.eq_replicate_of_mem hdashes]
      cases cs.length with
      | zero => exact .inl rfl
      | succ n => exact .inr (.dashes n)
  · rintro (rfl | h)
    · exact .inr nofun
    · cases h with
      | dot => exact .inl (.inl (.inl rfl))
      | underscore => exact .inl (.inl (.inr rfl))
      | underscores => exact .inl (.inr rfl)
      | dashes n => exact .inr fun c hc => List.eq_of_mem_replicate hc

theorem IsJoiner.chars (h : IsJoiner cs) : ∀ c ∈ cs, c = '.' ∨ c = '_' ∨ c = '-' := by
  cases h with
  | dot => simp
  | underscore => simp
  | underscores => simp
  | dashes n => exact fun c hc => .inr (.inr (List.eq_of_mem_replicate hc))

theorem IsJoiner.not_isNameChar (h : IsJoiner cs) : ∀ c ∈ cs, isNameChar c = false := by
  intro c hc
  rcases h.chars c hc with rfl | rfl | rfl
  · rfl
  · rfl
  · rfl

theorem IsRun.isNameChar (h : IsRun cs) : ∀ c ∈ cs, isNameChar c = true :=
  fun c hc => isNameChar_iff.2 (h.2 c hc)

theorem isRun_singleton (h : isNameChar c = true) : IsRun [c] :=
  ⟨nofun, by simpa using isNameChar_iff.1 h⟩

/-- A name character in front makes the first run longer. -/
theorem IsComponent.cons (hc : isNameChar c = true) (h : IsComponent cs) :
    IsComponent (c :: cs) := by
  have grow {run : List Char} (hrun : IsRun run) : IsRun (c :: run) :=
    ⟨nofun, List.forall_mem_cons.2 ⟨isNameChar_iff.1 hc, hrun.2⟩⟩
  cases h with
  | run hrun => exact .run (grow hrun)
  | join hrun hjoiner hrest => exact .join (grow hrun) hjoiner hrest

theorem IsComponent.exists_cons (h : IsComponent cs) :
    ∃ c rest, cs = c :: rest ∧ isNameChar c = true := by
  have first {run : List Char} (hrun : IsRun run) (rest : List Char) :
      ∃ c tail, run ++ rest = c :: tail ∧ isNameChar c = true := by
    obtain ⟨c, tail, rfl⟩ := List.exists_cons_of_ne_nil hrun.1
    exact ⟨c, tail ++ rest, rfl, hrun.isNameChar c List.mem_cons_self⟩
  cases h with
  | run hrun => simpa using first hrun []
  | join hrun => simpa using first hrun _

theorem IsComponent.getLast?_any (h : IsComponent cs) : cs.getLast?.any isNameChar = true := by
  induction h with
  | run hrun =>
    rw [List.getLast?_eq_some_getLast hrun.1]
    exact hrun.isNameChar _ (List.getLast_mem hrun.1)
  | join _ _ hrest ih =>
    obtain ⟨c, rest, rfl, -⟩ := hrest.exists_cons
    rwa [List.getLast?_append_cons]

theorem forall_pieces_append {run rest : List Char} (hrun : ∀ c ∈ run, isNameChar c = true)
    (hrest : ∀ w ∈ pieces isNameChar rest, isJoiner w = true) :
    ∀ w ∈ pieces isNameChar (run ++ rest), isJoiner w = true := by
  induction run with
  | nil => exact hrest
  | cons c run ih =>
    obtain ⟨hc, hrun⟩ := List.forall_mem_cons.1 hrun
    rw [List.cons_append, pieces, if_pos hc, List.forall_mem_cons]
    exact ⟨rfl, ih hrun⟩

theorem IsComponent.forall_pieces (h : IsComponent cs) :
    ∀ w ∈ pieces isNameChar cs, isJoiner w = true := by
  induction h with
  | @run run hrun =>
    rw [← List.append_nil run]
    exact forall_pieces_append hrun.isNameChar (List.forall_mem_singleton.2 rfl)
  | join hrun hjoiner hrest ih =>
    rw [List.append_assoc]
    refine forall_pieces_append hrun.isNameChar ?_
    obtain ⟨c, rest, rfl, hc⟩ := hrest.exists_cons
    rw [pieces, if_pos hc, List.forall_mem_cons] at ih
    rw [pieces_append hjoiner.not_isNameChar hc, List.forall_mem_cons]
    exact ⟨isJoiner_iff.2 (.inr hjoiner), ih.2⟩

/-- Behind its first piece, a text that ends with a name character and has joiners between its
name characters is a component. -/
theorem exists_isComponent {w : List Char} {ws : List (List Char)}
    (hcs : pieces isNameChar cs = w :: ws) (hlast : cs.getLast?.any isNameChar = true)
    (hws : ∀ v ∈ ws, isJoiner v = true) : ∃ rest, cs = w ++ rest ∧ IsComponent rest := by
  induction cs generalizing w ws with
  | nil => cases hlast
  | cons c cs ih =>
    obtain ⟨v, vs, hv⟩ := List.exists_cons_of_ne_nil (pieces_ne_nil isNameChar cs)
    rw [pieces, hv] at hcs
    cases hc : isNameChar c with
    | true =>
      rw [hc, if_pos rfl] at hcs
      cases hcs
      refine ⟨c :: cs, rfl, ?_⟩
      cases cs with
      | nil => exact .run (isRun_singleton hc)
      | cons d ds =>
        obtain ⟨hjoiner, hvs⟩ := List.forall_mem_cons.1 hws
        obtain ⟨rest, hrest, hcomponent⟩ := ih hv (by simpa using hlast) hvs
        rw [hrest]
        rcases isJoiner_iff.1 hjoiner with rfl | hjoiner
        · exact hcomponent.cons hc
        · exact .join (isRun_singleton hc) hjoiner hcomponent
    | false =>
      rw [hc, if_neg Bool.false_ne_true] at hcs
      cases hcs
      have hne : cs ≠ [] := by
        rintro rfl
        simp [hc] at hlast
      obtain ⟨rest, hrest, hcomponent⟩ :=
        ih hv (by rwa [List.getLast?_cons_of_ne_nil hne] at hlast) hws
      exact ⟨rest, by rw [hrest]; rfl, hcomponent⟩

theorem isPathComponent_iff : isPathComponent cs = true ↔ IsComponent cs := by
  rw [isPathComponent, Bool.and_eq_true, Bool.and_eq_true, List.all_eq_true]
  constructor
  · rintro ⟨⟨hfirst, hlast⟩, hjoiners⟩
    cases cs with
    | nil => cases hfirst
    | cons c cs =>
      have hc : isNameChar c = true := hfirst
      rw [pieces, if_pos hc, List.forall_mem_cons] at hjoiners
      have hpieces : pieces isNameChar (c :: cs) = [] :: pieces isNameChar cs := if_pos hc
      obtain ⟨rest, rfl, hcomponent⟩ := exists_isComponent hpieces hlast hjoiners.2
      exact hcomponent
  · intro h
    refine ⟨⟨?_, h.getLast?_any⟩, h.forall_pieces⟩
    obtain ⟨c, rest, rfl, hc⟩ := h.exists_cons
    exact hc

theorem IsComponent.chars (h : IsComponent cs) :
    ∀ c ∈ cs, isNameChar c = true ∨ c = '.' ∨ c = '_' ∨ c = '-' := by
  induction h with
  | run hrun => exact fun c hc => .inl (hrun.isNameChar c hc)
  | join hrun hjoiner _ ih =>
    rw [List.forall_mem_append, List.forall_mem_append]
    exact ⟨⟨fun c hc => .inl (hrun.isNameChar c hc), fun c hc => .inr (hjoiner.chars c hc)⟩, ih⟩

theorem isPath_iff : isPath cs = true ↔ IsPath cs := by
  rw [isPath, List.all_eq_true]
  refine (forall₂_congr fun _ _ => isPathComponent_iff).trans (joined_iff (fun c => ?_) ?_).symm
  · exact beq_iff_eq
  · rintro w hw c hc rfl
    exact absurd (hw.chars _ hc) (by decide)

theorem IsPath.chars (h : IsPath cs) :
    ∀ c ∈ cs, isNameChar c = true ∨ c = '.' ∨ c = '_' ∨ c = '-' ∨ c = '/' := by
  refine Joined.forall_mem (fun w hw c hc => ?_) (fun c hc => ?_) h
  · exact (hw.chars c hc).imp_right fun h => h.imp_right fun h => h.imp_right .inl
  · exact .inr (.inr (.inr (.inr hc)))

/-! ## Tags and digests -/

/-- 1 to 128 letters, digits, underscores, dots and dashes, the first neither dot nor dash. -/
structure IsTag (cs : List Char) : Prop where
  nonempty : 1 ≤ cs.length
  length_le : cs.length ≤ 128
  chars : ∀ c ∈ cs, c.isAlphanum = true ∨ c = '_' ∨ c = '.' ∨ c = '-'
  first : ∀ c ∈ cs.head?, c ≠ '.' ∧ c ≠ '-'

/-- Letters and digits, the first a letter. -/
structure IsAlgorithmPart (cs : List Char) : Prop where
  first : ∃ c ∈ cs.head?, c.isAlpha = true
  chars : ∀ c ∈ cs, c.isAlphanum = true

/-- Parts joined by dashes, underscores, plus signs and dots. -/
def IsAlgorithm : List Char → Prop :=
  Joined IsAlgorithmPart (· ∈ ['-', '_', '+', '.'])

/-- At least 32 hexadecimal digits of either case. -/
structure IsHex (cs : List Char) : Prop where
  le_length : 32 ≤ cs.length
  chars : ∀ c ∈ cs, c.isDigit = true ∨ ('a' ≤ c ∧ c ≤ 'f') ∨ ('A' ≤ c ∧ c ≤ 'F')

/-- An algorithm and hexadecimal digits with a colon between them. -/
inductive IsDigest : List Char → Prop
  | mk {algorithm hex : List Char} : IsAlgorithm algorithm → IsHex hex →
      IsDigest (algorithm ++ ':' :: hex)

theorem isWordChar_iff : isWordChar c = true ↔ c.isAlphanum = true ∨ c = '_' := by
  simp [isWordChar]

theorem isTag_iff : isTag cs = true ↔ IsTag cs := by
  rw [isTag, Bool.and_eq_true, Bool.and_eq_true, decide_eq_true_eq, List.all_eq_true]
  have hchar (c : Char) : (isWordChar c || c == '.' || c == '-') = true ↔
      c.isAlphanum = true ∨ c = '_' ∨ c = '.' ∨ c = '-' := by
    simp [isWordChar, or_assoc]
  have hlength (hchars : ∀ c ∈ cs, c.isAlphanum = true ∨ c = '_' ∨ c = '.' ∨ c = '-') :
      byteLength cs = cs.length := by
    refine byteLength_of_ascii fun c hc => ?_
    rcases hchars c hc with h | rfl | rfl | rfl
    · exact le_of_isAlphanum h
    · decide
    · decide
    · decide
  simp only [hchar]
  cases cs with
  | nil =>
    constructor
    · rintro ⟨⟨hfirst, -⟩, -⟩
      cases hfirst
    · intro h
      exact absurd h.nonempty (by decide)
  | cons c cs =>
    constructor
    · rintro ⟨⟨hfirst, hle⟩, hchars⟩
      rw [hlength hchars] at hle
      refine ⟨by simp, hle, hchars, ?_⟩
      rintro d hd
      cases hd
      constructor
      · rintro rfl
        cases hfirst
      · rintro rfl
        cases hfirst
    · rintro ⟨-, hle, hchars, hfirst⟩
      rw [hlength hchars]
      refine ⟨⟨?_, hle⟩, hchars⟩
      obtain ⟨hdot, hdash⟩ := hfirst c rfl
      rcases hchars c List.mem_cons_self with h | h | h | h
      · exact isWordChar_iff.2 (.inl h)
      · exact isWordChar_iff.2 (.inr h)
      · exact absurd h hdot
      · exact absurd h hdash

theorem isHexDigit_iff : isHexDigit c = true ↔
    c.isDigit = true ∨ ('a' ≤ c ∧ c ≤ 'f') ∨ ('A' ≤ c ∧ c ≤ 'F') := by
  simp [isHexDigit, or_assoc]

theorem isAlgorithmPart_iff : isAlgorithmPart cs = true ↔ IsAlgorithmPart cs := by
  rw [isAlgorithmPart, Bool.and_eq_true, Option.any_eq_true, List.all_eq_true]
  exact ⟨fun h => ⟨h.1, h.2⟩, fun h => ⟨h.1, h.2⟩⟩

theorem isAlgorithm_iff :
    (pieces isAlgorithmJoiner cs).all isAlgorithmPart = true ↔ IsAlgorithm cs := by
  rw [List.all_eq_true]
  refine (forall₂_congr fun _ _ => isAlgorithmPart_iff).trans (joined_iff (fun c => ?_) ?_).symm
  · simp [isAlgorithmJoiner, or_assoc]
  · intro w hw c hc hsep
    have hc : c.isAlphanum = true := hw.chars c hc
    simp only [List.mem_cons, List.not_mem_nil, or_false] at hsep
    rcases hsep with rfl | rfl | rfl | rfl
    · cases hc
    · cases hc
    · cases hc
    · cases hc

theorem IsAlgorithm.chars (h : IsAlgorithm cs) :
    ∀ c ∈ cs, c.isAlphanum = true ∨ c ∈ ['-', '_', '+', '.'] :=
  Joined.forall_mem (fun _ hw c hc => .inl (hw.chars c hc)) (fun _ hc => .inr hc) h

theorem IsAlgorithm.colon_not_mem (h : IsAlgorithm cs) : ':' ∉ cs :=
  not_mem_of_forall h.chars (by decide)

theorem isHex_iff : (digestHexMin ≤ byteLength cs ∧ cs.all isHexDigit = true) ↔ IsHex cs := by
  have hlength (hchars : ∀ c ∈ cs, c.isDigit = true ∨ ('a' ≤ c ∧ c ≤ 'f') ∨ ('A' ≤ c ∧ c ≤ 'F')) :
      byteLength cs = cs.length := by
    refine byteLength_of_ascii fun c hc => ?_
    rcases hchars c hc with h | h | h
    · exact le_of_isAlphanum (isAlphanum_of_isDigit h)
    · exact UInt32.le_trans h.2 (by decide)
    · exact UInt32.le_trans h.2 (by decide)
  simp only [List.all_eq_true, isHexDigit_iff]
  constructor
  · rintro ⟨hle, hchars⟩
    exact ⟨hlength hchars ▸ hle, hchars⟩
  · rintro ⟨hle, hchars⟩
    exact ⟨(hlength hchars).symm ▸ hle, hchars⟩

theorem isDigest_iff : isDigest cs = true ↔ IsDigest cs := by
  unfold isDigest
  constructor
  · intro h
    split at h
    case h_1 algorithm hex hcut =>
      obtain ⟨rfl, -⟩ := cutFirst?_eq_some_iff.1 hcut
      rw [Bool.and_assoc, Bool.and_eq_true, Bool.and_eq_true, decide_eq_true_eq,
        isAlgorithm_iff, isHex_iff] at h
      exact .mk h.1 h.2
    case h_2 => cases h
  · rintro ⟨halgorithm, hhex⟩
    rw [cutFirst?_append halgorithm.colon_not_mem]
    dsimp only
    rw [Bool.and_assoc, Bool.and_eq_true, Bool.and_eq_true, decide_eq_true_eq,
      isAlgorithm_iff, isHex_iff]
    exact ⟨halgorithm, hhex⟩

end ImageGate.Reference
