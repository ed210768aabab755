import Mathlib.Data.List.TakeWhile
import StagedBuild.Proofs.ArtifactLayout
import StagedBuild.Proofs.SessionOutcomes
import StagedBuild.Proofs.TextInPlace

/-!
# Which paths name a unit

A path ends in a component if nothing or a slash stands in front of that and only
slashes and `/.` behind it (`EndsIn`).  The file name of a path is the component it
ends in, unless that is `..` (`fileName?_eq_some_iff`).  A path without a file name
ends in `..` or is made of slashes and `.` alone (`fileName?_eq_none_iff`).

A file name is cut before its last dot, unless nothing stands before that
(`isStem_iff`).  The stem of a name is part of it and not empty, so a stem is
lossily read as a text that is not empty and has no slash.  `make_named` says from
this which requests can be made and what their units are called.
-/

namespace StagedBuild

namespace Path

variable {p : Path} {component name stem : Bytes}

/-! ## What a path ends in -/

/-- Slashes and `/.`, which name nothing behind a component. -/
inductive Trailing : Bytes → Prop where
  /-- There is nothing. -/
  | nil : Trailing []
  /-- A slash is in front. -/
  | slash {rest : Bytes} : Trailing rest → Trailing (Bytes.slash :: rest)
  /-- A slash with a `.` behind it is in front. -/
  | here {rest : Bytes} : Trailing rest → Trailing (Bytes.slash :: Bytes.dot :: rest)

/-- A path ends in a component, apart from what is trailing. -/
def EndsIn (p : Path) (component : Bytes) : Prop :=
  ∃ front behind, p = front ++ (component ++ behind) ∧
    (front = [] ∨ ∃ above, front = above ++ [Bytes.slash]) ∧ Trailing behind

/-- Directories may be put above a path. -/
theorem EndsIn.below (ends : p.EndsIn component) (above : Path) :
    EndsIn (above ++ Bytes.slash :: p) component := by
  obtain ⟨front, behind, rfl, clear, trailing⟩ := ends
  refine ⟨above ++ Bytes.slash :: front, behind, by simp, .inr ?_, trailing⟩
  rcases clear with rfl | ⟨inner, rfl⟩
  · exact ⟨above, rfl⟩
  · exact ⟨above ++ Bytes.slash :: inner, by simp⟩

theorem Trailing.append {first second : Bytes} (h : Trailing first) (h' : Trailing second) :
    Trailing (first ++ second) := by
  induction h with
  | nil => exact h'
  | slash _ ih => exact .slash ih
  | here _ ih => exact .here ih

/-- Slashes and `/.` may be put behind a path that ends in a component. -/
theorem EndsIn.followed (ends : p.EndsIn component) {more : Bytes} (h : Trailing more) :
    EndsIn (p ++ more) component := by
  obtain ⟨front, behind, rfl, clear, trailing⟩ := ends
  exact ⟨front, behind ++ more, by simp, clear, trailing.append h⟩

/-! ## Components that are not skipped -/

/-- The components of a path that are not skipped. -/
def names (p : Path) : List Bytes := (piecesAt Bytes.slash p).filter (!isSkipped ·)

theorem names_append_slash (before behind : Path) :
    names (before ++ Bytes.slash :: behind) = names before ++ names behind := by
  rw [names, piecesAt_append_cons, List.filter_append]
  rfl

theorem names_component (clean : Bytes.slash ∉ component)
    (counted : isSkipped component = false) : names component = [component] := by
  simp [names, piecesAt_of_notMem clean, counted]

/-- What is trailing has no names of its own. -/
theorem Trailing.names_append {behind : Bytes} (h : Trailing behind) (before : Path) :
    names (before ++ behind) = names before := by
  induction h generalizing before with
  | nil => rw [List.append_nil]
  | slash _ ih =>
    have rest := ih []
    rw [List.nil_append] at rest
    rw [names_append_slash, rest]
    exact List.append_nil _
  | here _ ih =>
    have rest := ih Path.here
    rw [names_append_slash]
    exact (congrArg _ rest).trans (List.append_nil _)

/-- Pieces that are skipped are trailing when each has a slash in front. -/
theorem trailing_of_skipped {pieces : List Bytes} (h : ∀ piece ∈ pieces, isSkipped piece = true) :
    Trailing (pieces.flatMap (Bytes.slash :: ·)) := by
  induction pieces with
  | nil => exact .nil
  | cons piece others ih =>
    have rest := ih fun other mem => h other (.tail _ mem)
    have skipped : piece = [] ∨ piece = Path.here := by
      simpa [isSkipped] using h piece (.head _)
    rcases skipped with rfl | rfl
    · exact .slash rest
    · exact .here rest

/-- The pieces of a path, each with a slash in front. -/
theorem flatMap_piecesAt (p : Path) :
    (piecesAt Bytes.slash p).flatMap (Bytes.slash :: ·) = Bytes.slash :: p := by
  have written : ∀ pieces : List Bytes, pieces ≠ [] →
      pieces.flatMap (Bytes.slash :: ·) = Bytes.slash :: joinPieces Bytes.slash pieces := by
    intro pieces ne
    induction pieces with
    | nil => exact absurd rfl ne
    | cons piece others ih =>
      cases others with
      | nil => simp [joinPieces]
      | cons next others => simp [joinPieces, ih]
  rw [written _ (piecesAt_ne_nil Bytes.slash p), joinPieces_piecesAt]

/-- A path without names is made of slashes and `.` alone. -/
theorem names_eq_nil_iff : p.names = [] ↔ Trailing (Bytes.slash :: p) := by
  constructor
  · intro none
    rw [names, List.filter_eq_nil_iff] at none
    rw [← flatMap_piecesAt]
    exact trailing_of_skipped fun piece mem => by simpa using none piece mem
  · intro trailing
    have none := trailing.names_append []
    rw [names_append_slash] at none
    exact (List.append_eq_nil_iff.mp none).2

/-- The last name is what the path ends in. -/
theorem getLast?_names_iff :
    p.names.getLast? = some component ↔
      isSkipped component = false ∧ Bytes.slash ∉ component ∧ p.EndsIn component := by
  constructor
  · intro last
    obtain ⟨others, names_eq⟩ := List.getLast?_eq_some_iff.mp last
    rw [names, List.filter_eq_append_iff] at names_eq
    obtain ⟨front, rest, pieces_eq, _, single⟩ := names_eq
    obtain ⟨between, behind, rfl, _, counted, skipped⟩ := List.filter_eq_cons_iff.mp single
    rw [List.filter_eq_nil_iff] at skipped
    have listed : component ∈ piecesAt Bytes.slash p := by
      rw [pieces_eq]
      simp
    have clean : Bytes.slash ∉ component := separator_notMem listed
    have text := flatMap_piecesAt p
    rw [pieces_eq, ← List.append_assoc] at text
    refine ⟨by simpa using counted, clean, ?_⟩
    have trailing := trailing_of_skipped fun piece mem => by simpa using skipped piece mem
    -- Either the component is the first piece, or a slash follows the pieces in front of it.
    cases ahead : front ++ between with
    | nil =>
      rw [ahead] at text
      simp only [List.nil_append, List.flatMap_cons, List.cons_append, List.cons.injEq,
        true_and] at text
      exact ⟨[], _, text.symm, .inl rfl, trailing⟩
    | cons first pieces =>
      rw [ahead] at text
      simp only [List.cons_append, List.flatMap_cons, List.flatMap_append, List.cons.injEq,
        true_and] at text
      refine ⟨first ++ pieces.flatMap (Bytes.slash :: ·) ++ [Bytes.slash], _, ?_,
        .inr ⟨_, rfl⟩, trailing⟩
      rw [← text]
      simp
  · rintro ⟨counted, clean, front, behind, rfl, clear, trailing⟩
    have single : names (component ++ behind) = [component] := by
      rw [trailing.names_append, names_component clean counted]
    rcases clear with rfl | ⟨above, rfl⟩
    · rw [List.nil_append, single]
      rfl
    · rw [List.append_assoc, List.singleton_append, names_append_slash, single]
      exact List.getLast?_concat

/-! ## File names -/

/-- What stands before the components of a path is no name. -/
theorem filter_body (p : Path) : p.body.filter (!isSkipped ·) = p.names := by
  unfold body head
  split
  · next rest => exact (names_append_slash [] rest).symm
  · rfl
  · next rest => exact (names_append_slash Path.here rest).symm
  · rfl

theorem fileName?_eq (p : Path) : p.fileName? = p.names.getLast?.filter (· ≠ up) := by
  have last : p.fromEnd.head? = p.names.getLast? := by
    rw [← filter_body, List.getLast?_filter, List.find?_not_eq_head?_dropWhile,
      fromEnd]
  rw [← last, fileName?]
  cases p.fromEnd with
  | nil => rfl
  | cons first others => by_cases same : first = up <;> simp [same, Option.filter]

/-- The file name of a path is the component that the path ends in. -/
theorem fileName?_eq_some_iff :
    p.fileName? = some name ↔ IsComponent name ∧ p.EndsIn name := by
  rw [fileName?_eq, Option.filter_eq_some_iff, getLast?_names_iff]
  constructor
  · rintro ⟨⟨counted, clean, ends⟩, other⟩
    simp only [isSkipped, Bool.or_eq_false_iff, List.isEmpty_eq_false_iff, beq_eq_false_iff_ne]
      at counted
    exact ⟨⟨counted.1, clean, counted.2, by simpa using other⟩, ends⟩
  · rintro ⟨component, ends⟩
    exact ⟨⟨component.not_skipped, component.slash_notMem, ends⟩, by simpa using component.ne_up⟩

/-- A path without a file name has no components, or `..` is the last one. -/
theorem fileName?_eq_none_iff :
    p.fileName? = none ↔ Trailing (Bytes.slash :: p) ∨ p.EndsIn up := by
  have counted : isSkipped up = false := by decide
  have clean : Bytes.slash ∉ up := by decide
  rw [fileName?_eq, ← names_eq_nil_iff]
  cases last : p.names.getLast? with
  | none => simp [List.getLast?_eq_none_iff.mp last]
  | some component =>
    have some_names : p.names ≠ [] := by
      rintro none
      rw [none] at last
      cases last
    rw [or_iff_right some_names, Option.filter_eq_none_iff]
    constructor
    · intro not_named
      have same : component = up := by simpa using not_named component rfl
      rw [same] at last
      exact (getLast?_names_iff.mp last).2.2
    · intro ends
      rw [getLast?_names_iff.mpr ⟨counted, clean, ends⟩] at last
      cases last
      simp

/-! ## Stems -/

/-- A name without its extension. -/
inductive IsStem (name : Bytes) : Bytes → Prop where
  /-- It is cut before its last dot. -/
  | cut {before after : Bytes} (filled : before ≠ []) (last : Bytes.dot ∉ after)
      (parts : name = before ++ Bytes.dot :: after) : IsStem name before
  /-- It is whole if it has no dot, or only one in front. -/
  | whole (uncut : Bytes.dot ∉ name ∨ ∃ after, Bytes.dot ∉ after ∧ name = Bytes.dot :: after) :
      IsStem name name

theorem stemOf_append {before after : Bytes} (last : Bytes.dot ∉ after) :
    stemOf (before ++ Bytes.dot :: after) =
      if before = [] then Bytes.dot :: after else before := by
  rw [stemOf, piecesAt_append_cons, piecesAt_of_notMem last, List.dropLast_concat,
    joinPieces_piecesAt]
  cases before <;> rfl

theorem stemOf_of_notMem (dotless : Bytes.dot ∉ name) : stemOf name = name := by
  rw [stemOf, piecesAt_of_notMem dotless]
  rfl

theorem exists_last_dot (dotted : Bytes.dot ∈ name) :
    ∃ before after, name = before ++ Bytes.dot :: after ∧ Bytes.dot ∉ after := by
  obtain ⟨after, before, parts, last⟩ :=
    List.eq_append_cons_of_mem (List.mem_reverse.mpr dotted)
  refine ⟨before.reverse, after.reverse, ?_, by simpa using last⟩
  rw [← List.reverse_inj, parts]
  simp

/-- Each name has one stem. -/
theorem isStem_iff : IsStem name stem ↔ stem = stemOf name := by
  constructor
  · rintro (⟨filled, last, rfl⟩ | dotless | ⟨after, last, rfl⟩)
    · rw [stemOf_append last, if_neg filled]
    · exact (stemOf_of_notMem dotless).symm
    · have whole : stemOf ([] ++ Bytes.dot :: after) = _ := stemOf_append last
      exact whole.symm
  · rintro rfl
    by_cases dotted : Bytes.dot ∈ name
    · obtain ⟨before, after, rfl, last⟩ := exists_last_dot dotted
      rw [stemOf_append last]
      split
      · next empty =>
        subst empty
        exact .whole (.inr ⟨after, last, rfl⟩)
      · next filled => exact .cut filled last rfl
    · rw [stemOf_of_notMem dotted]
      exact .whole (.inl dotted)

/-- A stem of a name is no less a name of one component. -/
theorem IsStem.part (h : IsStem name stem) (component : IsComponent name) :
    stem ≠ [] ∧ Bytes.slash ∉ stem := by
  cases h with
  | cut filled last parts =>
    refine ⟨filled, fun slash => component.slash_notMem ?_⟩
    rw [parts]
    exact List.mem_append_left _ slash
  | whole uncut => exact ⟨component.ne_nil, component.slash_notMem⟩

end Path

/-! ## Units -/

namespace Utf8

theorem decode_ne_empty {bytes : Bytes} (filled : bytes ≠ []) : decode bytes ≠ "" := by
  intro empty
  have chars := congrArg String.toList empty
  rw [decode, String.toList_ofList] at chars
  exact filled (decodeChars_eq_nil.mp chars)

end Utf8

namespace Request

open StagedBuild.Path (IsComponent IsStem Trailing up)

variable {source output : Path} {choice : StageChoice} {name stem : Bytes}

/-- A path that ends in a component has a unit named for the stem of that. -/
theorem unitNameOf?_of_endsIn (component : IsComponent name) (ends : source.EndsIn name)
    (cut : IsStem name stem) : unitNameOf? source = some (Utf8.decode stem) := by
  have named : source.fileName? = some name := Path.fileName?_eq_some_iff.mpr ⟨component, ends⟩
  have filled := Utf8.decode_ne_empty (cut.part component).1
  rw [unitNameOf?, Path.fileStem?, named, Option.map_some, ← Path.isStem_iff.mp cut]
  simp [filled]

theorem unitNameOf?_eq_none_iff :
    unitNameOf? source = none ↔ ¬∃ name, IsComponent name ∧ source.EndsIn name := by
  constructor
  · rintro unnamed ⟨name, component, ends⟩
    rw [unitNameOf?_of_endsIn component ends (Path.isStem_iff.mpr rfl)] at unnamed
    cases unnamed
  · intro nameless
    have unnamed : source.fileName? = none :=
      Option.eq_none_iff_forall_ne_some.mpr fun name named =>
        nameless ⟨name, Path.fileName?_eq_some_iff.mp named⟩
    rw [unitNameOf?, Path.fileStem?, unnamed]
    rfl

/-- Which requests can be made, and what their units are called.

A native build without its project is refused whatever the paths are.  Else a request is
refused if and only if its source ends in no component, which is so if the source is
empty, is made of slashes and `.` alone or ends in `..`.  A source that ends in a
component has a unit that is named for the stem of that, read as a text.  The name of the
unit is not empty and has no slash.  It is the same for every path that ends in the
component, so directories above the source and slashes and `/.` behind it do not
matter. -/
theorem make_named (source output : Path) (choice : StageChoice) :
    (make source output choice = .error .nativeBuildWithoutProject ↔
      choice.nativeBuild = true ∧ choice.generateProject = false) ∧
    (¬choice.Clashes →
      ((∃ reason, make source output choice = .error (.invalidRequest reason)) ↔
        ¬∃ name, IsComponent name ∧ source.EndsIn name) ∧
      ((¬∃ name, IsComponent name ∧ source.EndsIn name) ↔
        Trailing (Bytes.slash :: source) ∨ source.EndsIn up) ∧
      ∀ name, IsComponent name → source.EndsIn name → ∃ stem, IsStem name stem ∧
        let unitName := Utf8.decode stem
        make source output choice = .ok ⟨source, output, unitName, choice⟩ ∧
        unitName ≠ "" ∧ '/' ∉ unitName.toList ∧
        (∀ other, other.EndsIn name →
          make other output choice = .ok ⟨other, output, unitName, choice⟩) ∧
        (∀ above, Path.EndsIn (above ++ Bytes.slash :: source) name) ∧
        ∀ behind, Trailing behind → Path.EndsIn (source ++ behind) name) := by
  refine ⟨⟨?_, make_of_clash⟩, fun fits => ⟨⟨?_, ?_⟩, ?_, ?_⟩⟩
  · intro refused
    by_contra fits
    cases named : unitNameOf? source with
    | none =>
      rw [make_of_unnamed fits named] at refused
      cases refused
    | some unitName =>
      rw [make_of_named fits named] at refused
      cases refused
  · rintro ⟨reason, refused⟩ ⟨name, component, ends⟩
    have named := unitNameOf?_of_endsIn component ends (Path.isStem_iff.mpr rfl)
    rw [make_of_named fits named] at refused
    cases refused
  · intro nameless
    exact ⟨_, make_of_unnamed fits (unitNameOf?_eq_none_iff.mpr nameless)⟩
  · rw [← Path.fileName?_eq_none_iff, Option.eq_none_iff_forall_ne_some]
    simp only [ne_eq, Path.fileName?_eq_some_iff, not_exists]
  · intro name component ends
    have cut : IsStem name (Path.stemOf name) := Path.isStem_iff.mpr rfl
    have named : ∀ other, Path.EndsIn other name →
        make other output choice = .ok ⟨other, output, Utf8.decode (Path.stemOf name), choice⟩ :=
      fun other ends' => make_of_named fits (unitNameOf?_of_endsIn component ends' cut)
    obtain ⟨filled, clean⟩ := cut.part component
    have ascii : IsAscii '/' := by decide
    exact ⟨_, cut, named source ends, Utf8.decode_ne_empty filled,
      fun slash => clean ((Utf8.mem_decode_iff ascii _).mp slash), named, ends.below,
      fun behind trailing => ends.followed trailing⟩

end Request

/-! ## A name of dots and other bytes -/

namespace DottedUnit

/-- A name that starts with a dot and has another, and a byte that is no text. -/
def name : Bytes := [0x2E, 0xFF, 0x2E, 0x70]

/-- The name below a directory, with slashes and a `.` behind it. -/
def source : Path := Bytes.ofString "d/" ++ (name ++ Bytes.ofString "/.//")

def output : Path := Bytes.ofString "out"

/-- The source has a unit, and one directory more changes nothing of its name. -/
theorem unit_named :
    Request.make source output {} = .ok ⟨source, output, ".\uFFFD", {}⟩ ∧
      let deeper := Bytes.ofString "/.." ++ Bytes.slash :: source
      Request.make deeper output {} = .ok ⟨deeper, output, ".\uFFFD", {}⟩ := by
  have fits : ¬StageChoice.Clashes {} := nofun
  have component : Path.IsComponent name := by decide
  have ends : source.EndsIn name :=
    ⟨Bytes.ofString "d/", Bytes.ofString "/.//", rfl, .inr ⟨Bytes.ofString "d", rfl⟩,
      .here (.slash (.slash .nil))⟩
  obtain ⟨stem, cut, made, _, _, same, below, _⟩ :=
    ((Request.make_named source output {}).2 fits).2.2 name component ends
  have text : Utf8.decode stem = ".\uFFFD" := by
    rw [Path.isStem_iff.mp cut]
    decide
  rw [text] at made same
  exact ⟨made, same _ (below _)⟩

end DottedUnit

end StagedBuild
