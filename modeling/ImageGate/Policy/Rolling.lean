import ImageGate.History.View
import ImageGate.Text.Blank
import ImageGate.Text.Split

/-!
# Rolling tags

A tag is rolling if it has named different images in the course of time. The history of reports
shows that when it holds two images under the tag. When it holds one, the registry is asked which
digest the tag names now: the tag is rolling if no report has recorded that digest. Where nothing is
known, or the history or the registry does not answer, the tag is not rolling.
-/

namespace ImageGate

open Text

/-- What becomes of a question to a registry. -/
inductive Inspection where
  | answered (digest : String)
  | failed
  /-- No answer comes in time. -/
  | silent
deriving DecidableEq, Repr, Inhabited

/-- Who can be asked which digest an image has now. -/
abbrev Inspector := String → Inspection

/-- What a history can be asked about a tag. -/
inductive Question where
  | ids (tag : String) (after : Instant)
  | digests (tag : String) (after : Instant)
deriving DecidableEq, Repr

/-- A history to ask. Some questions may fail, or get no answer in time. -/
structure Archive where
  history : History
  answers : Question → Bool := fun _ => true

instance : Coe History Archive := ⟨fun history => { history }⟩

namespace Archive

/-- The images that a tag has named after an instant, if that is answered. -/
def ids? (a : Archive) (tag : String) (after : Instant) : Option (List String) :=
  if a.answers (.ids tag after) then some (a.history.idsAfter tag after) else none

/-- The digests that a tag has named after an instant, if that is answered. -/
def digests? (a : Archive) (tag : String) (after : Instant) : Option (List String) :=
  if a.answers (.digests tag after) then some (a.history.digestsAfter tag after) else none

/-- Both questions about a tag are answered. -/
structure Answers (a : Archive) (tag : String) (after : Instant) : Prop where
  ids : a.answers (.ids tag after) = true
  digests : a.answers (.digests tag after) = true

instance (a : Archive) (tag : String) (after : Instant) : Decidable (a.Answers tag after) :=
  decidable_of_iff
    (a.answers (.ids tag after) = true ∧ a.answers (.digests tag after) = true)
    ⟨fun h => ⟨h.1, h.2⟩, fun h => ⟨h.ids, h.digests⟩⟩

theorem answers_coe (h : History) (tag : String) (after : Instant) :
    (h : Archive).Answers tag after :=
  ⟨rfl, rfl⟩

end Archive

/-- What is known about images beside the rules. -/
structure Sources where
  history : Option Archive := none
  inspector : Option Inspector := none

namespace Digest

/-- A digest without the name in front. -/
def bare (cs : List Char) : List Char :=
  afterLast '@' cs

/-- The kind of a digest that does not give its kind. -/
def defaultKind : List Char := "sha256:".toList

/-- A digest as a registry answers with it, brought into the form of recorded ones. -/
def live (answer : String) : List Char :=
  let digest := bare (trimBoth isBlank answer.toList)
  if digest.contains ':' then digest else defaultKind ++ digest

/-- The digests that count as recorded. -/
def recorded (digests : List String) : List (List Char) :=
  (digests.map fun d => bare d.toList).filter (!·.isEmpty)

end Digest

namespace Rolling

/-- What a name under a tag is recorded and asked for as. -/
def key (name tag : String) : String :=
  name ++ ":" ++ tag

/-- Whether the tag is rolling, and what the inspector has been asked for. -/
def check (archive : Archive) (inspector : Option Inspector) (after : Instant)
    (name tag : String) : Bool × List String :=
  let key := key name tag
  match archive.ids? key after with
  | none | some [] => (false, [])
  | some [_] =>
    match archive.digests? key after, inspector with
    | none, _ | _, none => (false, [])
    | some digests, some ask =>
      match ask key with
      | .answered digest => (!(Digest.recorded digests).contains (Digest.live digest), [key])
      | .failed | .silent => (false, [key])
  | some (_ :: _ :: _) => (true, [])

section Cases

variable {archive : Archive} {inspector : Option Inspector} {after : Instant} {name tag : String}

/-- Two images are enough to tell. -/
theorem check_of_two_le (hids : archive.answers (.ids (key name tag) after) = true)
    (htwo : 2 ≤ (archive.history.idsAfter (key name tag) after).length) :
    check archive inspector after name tag = (true, []) := by
  simp only [check, Archive.ids?, if_pos hids]
  match himages : archive.history.idsAfter (key name tag) after with
  | _ :: _ :: _ => rfl
  | [] | [_] => simp [himages] at htwo

/-- Of one image, the inspector is asked. -/
theorem check_of_one (ha : archive.Answers (key name tag) after)
    (hone : (archive.history.idsAfter (key name tag) after).length = 1) (ask : Inspector) :
    check archive (some ask) after name tag =
      match ask (key name tag) with
      | .answered digest =>
        (!(Digest.recorded (archive.history.digestsAfter (key name tag) after)).contains
          (Digest.live digest), [key name tag])
      | .failed | .silent => (false, [key name tag]) := by
  obtain ⟨_, himage⟩ := List.length_eq_one_iff.1 hone
  simp only [check, Archive.ids?, if_pos ha.ids, himage, Archive.digests?, if_pos ha.digests]

/-- Otherwise nothing is found out, and nobody is asked. -/
theorem check_of_neither
    (htwo : ¬ (archive.answers (.ids (key name tag) after) = true ∧
      2 ≤ (archive.history.idsAfter (key name tag) after).length))
    (hone : ¬ (inspector.isSome = true ∧ archive.Answers (key name tag) after ∧
      (archive.history.idsAfter (key name tag) after).length = 1)) :
    check archive inspector after name tag = (false, []) := by
  by_cases hids : archive.answers (.ids (key name tag) after) = true
  · simp only [check, Archive.ids?, if_pos hids]
    match himages : archive.history.idsAfter (key name tag) after with
    | [] => rfl
    | _ :: _ :: _ => exact absurd ⟨hids, by simp [himages]⟩ htwo
    | [_] =>
      by_cases hdigests : archive.answers (.digests (key name tag) after) = true
      · cases inspector with
        | none => simp only [Archive.digests?, if_pos hdigests]
        | some ask => exact absurd ⟨rfl, ⟨hids, hdigests⟩, by simp [himages]⟩ hone
      · simp only [Archive.digests?, if_neg hdigests]
  · simp only [check, Archive.ids?, if_neg hids]

end Cases

end Rolling

end ImageGate
