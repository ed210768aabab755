import Mathlib.Data.List.Infix
import StagedBuild.Disk.Walk
import StagedBuild.Proofs.Decoding

/-!
# The parts of paths

Two paths that are joined keep their names and, below a base that is not empty,
where a walk starts (`namesOf_join`, `startOf_join`).  A component that is joined
to any path, even one that is empty or ends in slashes or dots, is put behind its
components (`components_join`) and can be read back (`fileName?_join`).  What is
cut out of a path has only bytes of the path.
-/

namespace StagedBuild

namespace Path

variable {base rest p : Path} {b : UInt8}

/-! ## Joined paths -/

/-- Below a base the rest is put behind a slash, perhaps the one at the end of the
base. -/
theorem join_below (relative : rest.isAbsolute = false) (ne : base ≠ []) :
    ∃ before, base.join rest = before ++ Bytes.slash :: rest ∧
      (base = before ∨ base = before ++ [Bytes.slash]) := by
  have filled : base.isEmpty = false := by simpa using ne
  by_cases closed : base.getLast? = some Bytes.slash
  · obtain ⟨before, rfl⟩ := List.getLast?_eq_some_iff.mp closed
    exact ⟨before, by simp [join, relative], .inr rfl⟩
  · exact ⟨base, by simp [join, relative, filled, closed], .inl rfl⟩

theorem mem_join (mem : b ∈ base.join rest) : b ∈ base ∨ b = Bytes.slash ∨ b ∈ rest := by
  rw [join] at mem
  split at mem
  · exact .inr (.inr mem)
  · split at mem
    · rcases List.mem_append.mp mem with inBase | inRest
      · exact .inl inBase
      · exact .inr (.inr inRest)
    · rcases List.mem_append.mp mem with inBase | behind
      · exact .inl inBase
      · exact .inr (List.mem_cons.mp behind)

theorem slash_mem_join (ne : base ≠ []) (relative : rest.isAbsolute = false) :
    Bytes.slash ∈ base.join rest := by
  obtain ⟨before, joined, _⟩ := join_below relative ne
  rw [joined]
  simp

theorem isAbsolute_join (relative : rest.isAbsolute = false) (ne : base ≠ []) :
    (base.join rest).isAbsolute = base.isAbsolute := by
  obtain ⟨before, joined, rfl | rfl⟩ := join_below relative ne
  · rw [joined]
    obtain ⟨b, others, rfl⟩ := List.exists_cons_of_ne_nil ne
    rfl
  · rw [joined]
    cases before with
    | nil => rfl
    | cons b others => rfl

theorem join_ne_nil (base : Path) (ne : rest ≠ []) : base.join rest ≠ [] := by
  rw [join]
  split
  · exact ne
  · split
    · exact List.append_ne_nil_of_right_ne_nil base ne
    · exact List.append_ne_nil_of_right_ne_nil base (List.cons_ne_nil _ _)

theorem ne_nil_of_isAbsolute (absolute : p.isAbsolute = true) : p ≠ [] := by
  rintro rfl
  cases absolute

/-! ## Components -/

/-- The name of one entry of a directory. -/
structure IsComponent (name : Bytes) : Prop where
  /-- There is a name. -/
  ne_nil : name ≠ []
  /-- It is not a path of several names. -/
  slash_notMem : Bytes.slash ∉ name
  /-- It is not the directory itself. -/
  ne_here : name ≠ here
  /-- It is not the directory above. -/
  ne_up : name ≠ up

instance (name : Bytes) : Decidable (IsComponent name) :=
  decidable_of_iff (name ≠ [] ∧ Bytes.slash ∉ name ∧ name ≠ here ∧ name ≠ up)
    ⟨fun ⟨filled, clean, below, inside⟩ => ⟨filled, clean, below, inside⟩,
      fun ⟨filled, clean, below, inside⟩ => ⟨filled, clean, below, inside⟩⟩

/-- A name that is longer than two dots is one component if it has no slash. -/
theorem IsComponent.of_length {name : Bytes} (clean : Bytes.slash ∉ name)
    (long : 2 < name.length) : IsComponent name := by
  have shorter : ∀ other ∈ [[], here, up], ¬2 < other.length := by decide
  have different : ∀ other ∈ [[], here, up], name ≠ other := by
    rintro other mem rfl
    exact shorter name mem long
  exact ⟨different _ (.head _), clean, different _ (.tail _ (.head _)),
    different _ (.tail _ (.tail _ (.head _)))⟩

/-- What stands before the components of a path, and the components that are not
skipped.  Paths with the same components are read alike. -/
def components (p : Path) : Bytes × List Bytes := (p.head, p.body.filter (!isSkipped ·))

theorem IsComponent.relative {name : Path} (h : IsComponent name) : name.isAbsolute = false := by
  cases name with
  | nil => rfl
  | cons b rest =>
    have other : b ≠ Bytes.slash := fun same => h.slash_notMem (same ▸ .head _)
    simpa [isAbsolute] using other

theorem IsComponent.not_skipped {name : Bytes} (h : IsComponent name) : isSkipped name = false := by
  simp [isSkipped, h.ne_nil, h.ne_here]

theorem IsComponent.head_eq {name : Path} (h : IsComponent name) : name.head = [] := by
  have clean := h.slash_notMem
  unfold head
  split
  · exact absurd (.head _) clean
  · exact absurd rfl h.ne_here
  · exact absurd (.tail _ (.head _)) clean
  · rfl

theorem length_head_le (p : Path) : p.head.length ≤ p.length := by
  unfold head
  split
  · simp
  · simp [here]
  · simp [here]
  · simp

theorem head_append_slash (ne : p ≠ []) (rest : Path) :
    head (p ++ Bytes.slash :: rest) = p.head := by
  obtain ⟨b, others, rfl⟩ := List.exists_cons_of_ne_nil ne
  by_cases slash : b = 0x2F
  · subst slash
    rfl
  by_cases dot : b = 0x2E
  · subst dot
    cases others with
    | nil => rfl
    | cons c others =>
      by_cases slash : c = 0x2F
      · subst slash
        rfl
      · simp [head, slash]
  · simp [head, slash, dot]

theorem body_append_slash (ne : p ≠ []) (rest : Path) :
    body (p ++ Bytes.slash :: rest) = p.body ++ piecesAt Bytes.slash rest := by
  rw [body, body, head_append_slash ne, List.drop_append_of_le_length (length_head_le p),
    piecesAt_append_cons]

/-- A component that is joined to a path is put behind what the path has before it and
in it. -/
theorem join_component {name : Path} (h : IsComponent name) (base : Path) :
    (base.join name).head = base.head ∧ ∃ before, (base.join name).body = before ++ [name] ∧
      before.filter (!isSkipped ·) = base.body.filter (!isSkipped ·) := by
  have single := piecesAt_of_notMem h.slash_notMem
  by_cases ne : base = []
  · subst ne
    have joined : join [] name = name := by simp [join]
    rw [joined, h.head_eq, body, h.head_eq, List.length_nil, List.drop_zero, single]
    exact ⟨rfl, [], rfl, rfl⟩
  obtain ⟨before, joined, open_ | closed⟩ := join_below h.relative ne
  · subst open_
    rw [joined, head_append_slash ne, body_append_slash ne, single]
    exact ⟨rfl, _, rfl, rfl⟩
  · subst closed
    rw [joined]
    by_cases root : before = []
    · subst root
      have body_eq : body (Bytes.slash :: name) = piecesAt Bytes.slash name := rfl
      rw [List.nil_append, body_eq, single]
      exact ⟨rfl, [], rfl, rfl⟩
    · rw [head_append_slash root, body_append_slash root, head_append_slash root,
        body_append_slash root, single]
      -- The slash at the end leaves an empty piece, which is skipped.
      have skipped : (piecesAt Bytes.slash []).filter (!isSkipped ·) = [] := rfl
      exact ⟨rfl, _, rfl, by rw [List.filter_append, skipped, List.append_nil]⟩

theorem components_join {name : Path} (h : IsComponent name) (base : Path) :
    (base.join name).components = (base.components.1, base.components.2 ++ [name]) := by
  obtain ⟨head_eq, before, body_eq, same⟩ := join_component h base
  rw [components, components, head_eq, body_eq, List.filter_append, same]
  simp [h.not_skipped]

theorem fileName?_join {name : Path} (h : IsComponent name) (base : Path) :
    (base.join name).fileName? = some name := by
  obtain ⟨_, before, body_eq, _⟩ := join_component h base
  simp [fileName?, fromEnd, body_eq, h.not_skipped, h.ne_up]

/-! ## Names and stems -/

/-- The name of a path is one of the pieces between its slashes. -/
theorem mem_body_of_fileName? {name : Bytes} (h : p.fileName? = some name) : name ∈ p.body := by
  rw [fileName?] at h
  split at h
  · next others hend =>
    split at h
    · cases h
    · cases h
      have mem : name ∈ p.fromEnd := by
        rw [hend]
        exact .head _
      exact List.mem_reverse.mp ((List.dropWhile_sublist _).subset mem)
  · cases h

theorem mem_of_fileName? {name : Bytes} (h : p.fileName? = some name) (inside : b ∈ name) :
    b ∈ p :=
  List.mem_of_mem_drop (mem_of_mem_piecesAt (mem_body_of_fileName? h) inside)

theorem slash_notMem_of_fileName? {name : Bytes} (h : p.fileName? = some name) :
    Bytes.slash ∉ name :=
  separator_notMem (mem_body_of_fileName? h)

theorem mem_stemOf {name : Bytes} (inside : b ∈ stemOf name) : b ∈ name ∨ b = Bytes.dot := by
  rw [stemOf] at inside
  split at inside
  · exact .inl inside
  · rcases mem_joinPieces inside with same | ⟨piece, mem, inPiece⟩
    · exact .inr same
    · exact .inl (mem_of_mem_piecesAt (List.mem_of_mem_dropLast mem) inPiece)

end Path

namespace Disk

variable {disk : Disk} {base rest : Path}

/-! ## Joined paths on a disk -/

theorem namesOf_append_slash (before behind : Path) :
    namesOf (before ++ Bytes.slash :: behind) = namesOf before ++ namesOf behind := by
  rw [namesOf, piecesAt_append_cons, List.filter_append]
  rfl

/-- The names of two paths that are joined are those of the first and then those of
the second. -/
theorem namesOf_join (relative : rest.isAbsolute = false) (ne : base ≠ []) :
    namesOf (base.join rest) = namesOf base ++ namesOf rest := by
  obtain ⟨before, joined, rfl | rfl⟩ := Path.join_below relative ne
  · rw [joined, namesOf_append_slash]
  · have empty : namesOf [] = [] := rfl
    rw [joined, namesOf_append_slash, namesOf_append_slash, empty, List.append_nil]

theorem startOf_join (relative : rest.isAbsolute = false) (ne : base ≠ []) :
    disk.startOf (base.join rest) = disk.startOf base := by
  rw [startOf, startOf, Path.isAbsolute_join relative ne]

end Disk

end StagedBuild
