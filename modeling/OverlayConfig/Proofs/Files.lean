import OverlayConfig.Files
import OverlayConfig.Proofs.Fields
import OverlayConfig.Proofs.Results
/-!
Writing a file. Paths lead up and down through directories; the place that a path leads to is told
by names that only lead down from the root. A write changes what stands at the place of its own path
and nothing else: whatever paths to other places named before, they name afterwards.
-/
set_option autoImplicit false

namespace OverlayConfig

namespace FileNode

def at? : List String → FileNode → Option FileNode
  | [], node => some node
  | name :: rest, .directory entries => (Fields.get? name entries).bind (at? rest)
  | _ :: _, _ => none

/-- What a node is by itself: of a directory, only that it is one. -/
def outline : FileNode → FileNode
  | .directory _ => .directory []
  | node => node

variable {root node child : FileNode} {entries : Fields FileNode} {name : String}
  {names reversed : List String} {parents : List FileNode}

theorem at?_append (xs ys : List String) (node : FileNode) :
    at? (xs ++ ys) node = (at? xs node).bind (at? ys) := by
  induction xs generalizing node with
  | nil => rfl
  | cons name rest ih =>
    cases node with
    | directory entries =>
      simp only [List.cons_append, at?]
      cases Fields.get? name entries with
      | none => rfl
      | some child => exact ih child
    | text cs => rfl
    | binary => rfl

theorem at?_concat (xs : List String) (name : String) (node : FileNode) :
    at? (xs ++ [name]) node = (at? xs node).bind (at? [name]) := at?_append xs [name] node

theorem at?_of_not_isDirectory (h : node.isDirectory = false) (hne : names ≠ []) :
    at? names node = none := by
  cases names with
  | nil => exact absurd rfl hne
  | cons name rest =>
    cases node with
    | directory entries => cases h
    | text cs => rfl
    | binary => rfl

/-- A walk, told by where it stands: the names from the root to there, the last one first. -/
def follow (root : FileNode) : (reversed : List String) → List String → Option FileNode
  | reversed, [] => at? reversed.reverse root
  | reversed, name :: rest =>
    if (at? reversed.reverse root).any isDirectory then
      if name = ".." then follow root (reversed.drop 1) rest
      else follow root (name :: reversed) rest
    else none

theorem follow_of_at?_none (h : at? reversed.reverse root = none) :
    follow root reversed names = none := by
  cases names with
  | nil => exact h
  | cons name rest => simp [follow, h]

/-- A node with the names that lead to it and the directories that they lead through. -/
inductive Below (root : FileNode) : List String → FileNode → List FileNode → Prop where
  | root : Below root [] root []
  | child {reversed : List String} {entries : Fields FileNode} {parents : List FileNode}
      {name : String} {child : FileNode} (habove : Below root reversed (.directory entries) parents)
      (hget : Fields.get? name entries = some child) :
      Below root (name :: reversed) child (.directory entries :: parents)

theorem Below.at?_eq (h : Below root reversed node parents) :
    at? reversed.reverse root = some node := by
  induction h with
  | root => rfl
  | child habove hget ih => simp [at?_concat, ih, at?, hget]

theorem walk_eq_follow (h : Below root reversed node parents) :
    (walk parents node names).toOption = follow root reversed names := by
  induction names generalizing reversed node parents with
  | nil => rw [follow, h.at?_eq]; rfl
  | cons name rest ih =>
    have hat := h.at?_eq
    cases node with
    | directory entries =>
      by_cases hup : name = ".."
      · simp only [follow, hat, Option.any_some, isDirectory, if_true, hup]
        cases h with
        | root => exact ih .root
        | child habove hget => exact ih habove
      · simp only [walk, follow, hat, Option.any_some, isDirectory, if_true, hup, if_false]
        cases hget : Fields.get? name entries with
        | some child => exact ih (h.child hget)
        | none =>
          have hnone : at? (name :: reversed).reverse root = none := by
            simp [at?_concat, hat, at?, hget]
          exact (follow_of_at?_none hnone).symm
    | text cs => simp [walk, follow, hat, isDirectory, Except.toOption]
    | binary => simp [walk, follow, hat, isDirectory, Except.toOption]

/-- A walk ends at the place that its names lead to when the steps up are taken back. -/
theorem at?_of_follow (h : follow root reversed names = some node) :
    at? (withoutParents reversed names) root = some node := by
  induction names generalizing reversed with
  | nil => exact h
  | cons name rest ih =>
    rw [follow] at h
    split at h
    · by_cases hup : name = ".."
      · simp only [hup, if_true] at h
        simpa [withoutParents, hup] using ih h
      · simp only [hup, if_false] at h
        simpa [withoutParents, hup] using ih h
    · cases h

theorem withoutParents_concat (hname : name ≠ "..") :
    withoutParents reversed (names ++ [name]) = withoutParents reversed names ++ [name] := by
  induction names generalizing reversed with
  | nil => simp [withoutParents, hname]
  | cons first rest ih =>
    by_cases hup : first = ".." <;> simp [withoutParents, hup, ih]

theorem follow_concat (hname : name ≠ "..") : follow root reversed (names ++ [name]) =
    if (follow root reversed names).any isDirectory then
      at? (withoutParents reversed names ++ [name]) root
    else none := by
  induction names generalizing reversed with
  | nil =>
    simp only [List.nil_append, follow, hname, if_false, List.reverse_cons, withoutParents]
    rfl
  | cons first rest ih =>
    simp only [List.cons_append, follow]
    split
    · by_cases hup : first = ".." <;> simp only [hup, if_true, if_false, ih, withoutParents]
    · rfl

/-- Two roots with the same nodes at all places but one, at which neither has a directory. -/
structure SameBut (place : List String) (before after : FileNode) : Prop where
  outline_eq : ∀ {names}, names ≠ place →
    (at? names after).map outline = (at? names before).map outline
  before_isDirectory : (at? place before).any isDirectory = false
  after_isDirectory : (at? place after).any isDirectory = false

section SameBut

variable {place : List String} {before after : FileNode}

theorem isDirectory_outline (node : FileNode) : node.outline.isDirectory = node.isDirectory := by
  cases node <;> rfl

theorem any_isDirectory_of_outline {a b : Option FileNode} (h : a.map outline = b.map outline) :
    a.any isDirectory = b.any isDirectory := by
  have hmap (o : Option FileNode) : (o.map outline).any isDirectory = o.any isDirectory := by
    cases o with
    | none => rfl
    | some node => exact isDirectory_outline node
  rw [← hmap a, h, hmap b]

theorem SameBut.any_isDirectory (h : SameBut place before after) (names : List String) :
    (at? names after).any isDirectory = (at? names before).any isDirectory := by
  by_cases hplace : names = place
  · rw [hplace, h.before_isDirectory, h.after_isDirectory]
  · exact any_isDirectory_of_outline (h.outline_eq hplace)

/-- The same walk through both roots comes to the same node, unless it ends at the one place. -/
theorem SameBut.follow (h : SameBut place before after)
    (hplace : withoutParents reversed names ≠ place) :
    (follow after reversed names).map outline = (follow before reversed names).map outline := by
  induction names generalizing reversed with
  | nil => exact h.outline_eq hplace
  | cons name rest ih =>
    simp only [FileNode.follow, h.any_isDirectory]
    split
    · by_cases hup : name = ".."
      · simp only [withoutParents, hup, if_true] at hplace ⊢
        exact ih hplace
      · simp only [withoutParents, hup, if_false] at hplace ⊢
        exact ih hplace
    · rfl

theorem SameBut.follow_eq_at? (h : SameBut place before after)
    (hsome : (FileNode.follow before reversed names).isSome) :
    FileNode.follow after reversed names = at? (withoutParents reversed names) after := by
  induction names generalizing reversed with
  | nil => rfl
  | cons name rest ih =>
    simp only [FileNode.follow, h.any_isDirectory, withoutParents] at hsome ⊢
    split at hsome
    · next hdir =>
      rw [if_pos hdir]
      by_cases hup : name = ".."
      · simp only [hup, if_true] at hsome ⊢
        exact ih hsome
      · simp only [hup, if_false] at hsome ⊢
        exact ih hsome
    · cases hsome

end SameBut

theorem at?_put (node : FileNode) (place : List String) (root : FileNode) :
    at? place (put node place root) = some node := by
  induction place generalizing root with
  | nil => rfl
  | cons name rest ih => simp [put, at?, Fields.get?_insert, ih]

theorem exists_entries {first : String} {rest : List String}
    (hdir : (at? (first :: rest).dropLast root).any isDirectory = true) :
    ∃ entries, root = .directory entries := by
  cases root with
  | directory entries => exact ⟨entries, rfl⟩
  | text cs => cases rest <;> simp [at?, isDirectory] at hdir
  | binary => cases rest <;> simp [at?, isDirectory] at hdir

theorem exists_child {first second : String} {rest : List String} {entries : Fields FileNode}
    (hdir : (at? (first :: second :: rest).dropLast (.directory entries)).any isDirectory = true) :
    ∃ child, Fields.get? first entries = some child := by
  cases hget : Fields.get? first entries with
  | some child => exact ⟨child, rfl⟩
  | none => simp [at?, hget] at hdir

/-- Nothing that is neither at the place nor above it has changed, down to its last part. -/
theorem at?_put_apart {place : List String}
    (hdir : (at? place.dropLast root).any isDirectory = true)
    (hold : (at? place root).any isDirectory = false) (hnew : node.isDirectory = false)
    (h : ¬ names <+: place) : at? names (put node place root) = at? names root := by
  induction place generalizing root names with
  | nil =>
    have hne : names ≠ [] := fun h0 => h (h0 ▸ List.nil_prefix)
    rw [put, at?_of_not_isDirectory hnew hne,
      at?_of_not_isDirectory (by simpa [at?] using hold) hne]
  | cons first rest ih =>
    obtain ⟨entries, rfl⟩ := exists_entries hdir
    cases names with
    | nil => exact absurd List.nil_prefix h
    | cons name names =>
      by_cases hfirst : name = first
      · subst hfirst
        have hrest : ¬ names <+: rest := fun hp => h (List.cons_prefix_cons.mpr ⟨rfl, hp⟩)
        simp only [put, at?, Fields.get?_insert, if_true, Option.bind_some]
        cases rest with
        | nil =>
          have hne : names ≠ [] := fun h0 => hrest (h0 ▸ List.nil_prefix)
          rw [put, at?_of_not_isDirectory hnew hne]
          cases hget : Fields.get? name entries with
          | none => rfl
          | some child =>
            have hfile : child.isDirectory = false := by simpa [at?, hget] using hold
            rw [Option.bind_some, at?_of_not_isDirectory hfile hne]
        | cons second rest =>
          obtain ⟨child, hget⟩ := exists_child hdir
          simp only [at?, List.dropLast_cons_cons, hget, Option.bind_some] at hdir hold
          simp only [hget, Option.getD_some, Option.bind_some]
          exact ih hdir hold hrest
      · simp [put, at?, Fields.get?_insert, hfirst]

theorem map_outline_of_isDirectory {node? : Option FileNode} (h : node?.any isDirectory = true) :
    node?.map outline = some (.directory []) := by
  cases node? with
  | none => cases h
  | some node =>
    cases node with
    | directory entries => rfl
    | text cs => cases h
    | binary => cases h

theorem isDirectory_above {rest : List String}
    (hsome : (at? (names ++ name :: rest) root).isSome) :
    (at? names root).any isDirectory = true := by
  rw [at?_append] at hsome
  cases habove : at? names root with
  | none => simp [habove] at hsome
  | some above =>
    rw [habove] at hsome
    cases above with
    | directory entries => rfl
    | text cs => cases hsome
    | binary => cases hsome

theorem isDirectory_above_of_dropLast {rest : List String}
    (hdir : (at? (names ++ name :: rest).dropLast root).any isDirectory = true) :
    (at? names root).any isDirectory = true := by
  cases rest with
  | nil => rwa [List.dropLast_concat] at hdir
  | cons second rest =>
    rw [List.dropLast_append_of_ne_nil (List.cons_ne_nil _ _), List.dropLast_cons_cons] at hdir
    exact isDirectory_above (Option.isSome_of_any hdir)

/-- Putting a file into a directory, where no directory stands, leaves all other places alone. -/
theorem sameBut_put {place : List String} (hdir : (at? place.dropLast root).any isDirectory = true)
    (hold : (at? place root).any isDirectory = false) (hnew : node.isDirectory = false) :
    SameBut place root (put node place root) := by
  refine ⟨fun {names} hnames => ?_, hold, by simp [at?_put, hnew]⟩
  by_cases habove : names <+: place
  · -- above the place both roots have a directory
    obtain ⟨rest, rfl⟩ := habove
    cases rest with
    | nil => exact absurd (List.append_nil names).symm hnames
    | cons name rest =>
      have hafter : (at? names (put node (names ++ name :: rest) root)).any isDirectory = true :=
        isDirectory_above (by rw [at?_put]; rfl)
      rw [map_outline_of_isDirectory hafter,
        map_outline_of_isDirectory (isDirectory_above_of_dropLast hdir)]
  · rw [at?_put_apart hdir hold hnew habove]

theorem put_put (node : FileNode) (place : List String) (root : FileNode) :
    put node place (put node place root) = put node place root := by
  induction place generalizing root with
  | nil => rfl
  | cons name rest ih =>
    simp only [put, Fields.get?_insert, if_true, Option.getD_some, ih, Fields.insert_insert]

end FileNode

namespace Files

open FileNode

variable {files files' : Files} {path other : String} {cs : List Char} {node : FileNode}

/-- The place that a path leads to, by names that only lead down from the root. -/
def place (files : Files) (path : String) : List String := withoutParents [] (files.names path)

/-- What a path names, without what is in it if it is a directory. -/
def outline? (files : Files) (path : String) : Option FileNode :=
  (files.find path).toOption.map outline

/-- The file at a path has a new text, and all else is as it was. -/
structure Rewritten (path : String) (cs : List Char) (before after : Files) : Prop where
  read_eq : after.read path = .ok cs
  working_eq : after.working = before.working
  outline_eq : ∀ other, before.place other ≠ before.place path →
    after.outline? other = before.outline? other

theorem toOption_find (files : Files) (path : String) : (files.find path).toOption =
    if path = "" then none
    else (follow files.root [] (files.names path)).filter fun node =>
      !needsDirectory path || node.isDirectory := by
  rw [find, ← walk_eq_follow Below.root]
  by_cases hempty : path = ""
  · simp [hempty, Except.toOption]
  · cases hwalk : files.root.walk [] (files.names path) with
    | error e => simp [hempty, bind, Except.bind, Except.toOption]
    | ok node =>
      by_cases hneeds : needsDirectory path <;> cases hdir : node.isDirectory <;>
        simp [hempty, hneeds, hdir, bind, Except.bind, Except.toOption, Option.filter]

theorem outline?_eq (files : Files) (path : String) : files.outline? path =
    if path = "" then none
    else ((follow files.root [] (files.names path)).map outline).filter fun node =>
      !needsDirectory path || node.isDirectory := by
  rw [outline?, toOption_find]
  split
  · rfl
  · simp [Option.filter_map, Function.comp_def, isDirectory_outline]

theorem find_eq_ok : files.find path = .ok node ↔
    path ≠ "" ∧ follow files.root [] (files.names path) = some node ∧
      (needsDirectory path = true → node.isDirectory = true) := by
  rw [← toOption_eq_some, toOption_find]
  by_cases hempty : path = ""
  · simp [hempty]
  · cases needsDirectory path <;> simp [hempty, Option.filter_eq_some_iff]

theorem read_eq_ok : files.read path = .ok cs ↔ files.find path = .ok (.text cs) := by
  unfold read
  cases files.find path with
  | error e => simp [bind, Except.bind]
  | ok node => cases node <;> simp [bind, Except.bind]

theorem list_eq_ok {entries : List (String × FileNode)} :
    files.list path = .ok entries ↔ files.find path = .ok (.directory entries) := by
  unfold list
  cases files.find path with
  | error e => simp [bind, Except.bind]
  | ok node => cases node <;> simp [bind, Except.bind]

theorem at?_of_find (h : files.find path = .ok node) :
    at? (files.place path) files.root = some node :=
  at?_of_follow (find_eq_ok.mp h).2.1

/-- A text is written where a directory has no directory of the name, and the path asks for none. -/
theorem write_eq_ok (h : files.write path cs = .ok files') :
    ∃ init name entries, files.names path = init ++ [name] ∧ name ≠ ".." ∧
      files.root.walk [] init = .ok (.directory entries) ∧
      (Fields.get? name entries).any isDirectory = false ∧
      path ≠ "" ∧ needsDirectory path = false ∧ files' = files.put path (.text cs) := by
  by_cases hempty : path = ""
  · simp [write, hempty, bind, Except.bind, throw, throwThe, MonadExceptOf.throw] at h
  · simp only [write, hempty, if_false] at h
    obtain ⟨node, hwalk, h⟩ := bind_eq_ok.mp h
    cases hlast : (files.names path).getLast? with
    | none => simp [hlast] at h
    | some name =>
      cases node with
      | directory entries =>
        obtain ⟨init, hnames⟩ := List.getLast?_eq_some_iff.mp hlast
        rw [hnames, List.dropLast_concat] at hwalk
        simp only [hlast] at h
        split at h
        · cases h
        next hup =>
          refine ⟨init, name, entries, hnames, hup, hwalk, ?_⟩
          split at h
          · cases h
          · next file hfile hget =>
            split at h
            · cases h
            next hneeds =>
              cases h
              refine ⟨?_, hempty, by simpa using hneeds, rfl⟩
              cases file with
              | directory entries => exact (hfile entries rfl).elim
              | text cs => simp [hget, isDirectory]
              | binary => simp [hget, isDirectory]
          · next hget =>
            split at h
            · cases h
            next hneeds =>
              cases h
              exact ⟨by simp [hget], hempty, by simpa using hneeds, rfl⟩
      | text cs => simp [hlast] at h
      | binary => simp [hlast] at h

theorem eq_put_of_write (h : files.write path cs = .ok files') :
    files' = files.put path (.text cs) := by
  obtain ⟨-, -, -, -, -, -, -, -, -, hput⟩ := write_eq_ok h
  exact hput

theorem place_eq_concat {init : List String} {name : String}
    (hnames : files.names path = init ++ [name]) (hup : name ≠ "..") :
    files.place path = withoutParents [] init ++ [name] := by
  rw [place, hnames, withoutParents_concat hup]

theorem directory_of_write (h : files.write path cs = .ok files') :
    (at? (files.place path).dropLast files.root).any isDirectory = true ∧
      (at? (files.place path) files.root).any isDirectory = false := by
  obtain ⟨init, name, entries, hnames, hup, hwalk, hfile, -, -, -⟩ := write_eq_ok h
  have hplace : files.place path = withoutParents [] init ++ [name] := place_eq_concat hnames hup
  have hdir : at? (withoutParents [] init) files.root = some (.directory entries) := by
    refine at?_of_follow ?_
    rw [← walk_eq_follow Below.root, hwalk]
    rfl
  constructor
  · rw [hplace, List.dropLast_concat, hdir]
    rfl
  · rw [hplace, at?_concat, hdir]
    cases hget : Fields.get? name entries with
    | none => simp [at?, hget]
    | some child => simpa [at?, hget] using hfile

theorem sameBut_of_write (h : files.write path cs = .ok files') :
    SameBut (files.place path) files.root files'.root := by
  obtain ⟨hdir, hold⟩ := directory_of_write h
  obtain rfl := eq_put_of_write h
  exact sameBut_put hdir hold rfl

theorem at?_of_write (h : files.write path cs = .ok files') :
    at? (files.place path) files'.root = some (.text cs) := by
  obtain rfl := eq_put_of_write h
  exact at?_put (.text cs) (files.place path) files.root

theorem walk_of_write {init : List String} {name : String} (h : files.write path cs = .ok files')
    (hnames : files.names path = init ++ [name]) (hup : name ≠ "..") :
    ∃ entries : Fields FileNode, files'.root.walk [] init = .ok (.directory entries) ∧
      entries.get? name = some (.text cs) := by
  have hplace : files.place path = withoutParents [] init ++ [name] := place_eq_concat hnames hup
  have hinit : withoutParents [] init ≠ files.place path := by
    rw [hplace]
    exact fun h => List.cons_ne_nil _ _ (List.self_eq_append_right.mp h)
  have hthere : (follow files'.root [] init).any isDirectory = true := by
    obtain ⟨init', name', entries, hnames', -, hwalk, -⟩ := write_eq_ok h
    obtain ⟨rfl, -⟩ := List.append_inj' (hnames'.symm.trans hnames) rfl
    rw [any_isDirectory_of_outline ((sameBut_of_write h).follow hinit),
      ← walk_eq_follow Below.root, hwalk]
    rfl
  cases hafter : follow files'.root [] init with
  | none => simp [hafter] at hthere
  | some node =>
    cases node with
    | directory entries =>
      have hput := at?_of_write h
      rw [hplace, at?_concat, at?_of_follow hafter] at hput
      rw [← walk_eq_follow Below.root, toOption_eq_some] at hafter
      exact ⟨entries, hafter, by simpa [at?] using hput⟩
    | text cs => simp [hafter, isDirectory] at hthere
    | binary => simp [hafter, isDirectory] at hthere

theorem names_of_write (h : files.write path cs = .ok files') (other : String) :
    files'.names other = files.names other := by
  obtain rfl := eq_put_of_write h
  rfl

theorem read_of_write (h : files.write path cs = .ok files') : files'.read path = .ok cs := by
  obtain ⟨init, name, -, hnames, hup, -, -, hpath, hneeds, -⟩ := write_eq_ok h
  obtain ⟨entries, hwalk, -⟩ := walk_of_write h hnames hup
  have hdir : (follow files'.root [] init).any isDirectory = true := by
    rw [← walk_eq_follow Below.root, hwalk]
    rfl
  refine read_eq_ok.mpr (find_eq_ok.mpr ⟨hpath, ?_, by simp [hneeds]⟩)
  rw [names_of_write h, hnames, follow_concat hup, if_pos hdir, ← place_eq_concat hnames hup]
  exact at?_of_write h

theorem rewritten_of_write (h : files.write path cs = .ok files') :
    Rewritten path cs files files' := by
  have hworking : files'.working = files.working := by
    obtain rfl := eq_put_of_write h
    rfl
  refine ⟨read_of_write h, hworking, fun other hother => ?_⟩
  rw [outline?_eq, outline?_eq, names_of_write h, (sameBut_of_write h).follow hother]

theorem write_of_walk {init : List String} {name : String} {entries : Fields FileNode}
    (hnames : files.names path = init ++ [name]) (hup : name ≠ "..")
    (hwalk : files.root.walk [] init = .ok (.directory entries))
    (hfile : (Fields.get? name entries).any isDirectory = false) (hpath : path ≠ "")
    (hneeds : needsDirectory path = false) :
    files.write path cs = .ok (files.put path (.text cs)) := by
  simp only [write, hpath, if_false, hnames, List.dropLast_concat, List.getLast?_concat, hwalk,
    hneeds]
  cases hget : Fields.get? name entries with
  | none => simp [hup, hget, bind, Except.bind]
  | some child => cases child <;> simp_all [bind, Except.bind, isDirectory]

theorem put_put (files : Files) (path : String) (node : FileNode) :
    (files.put path node).put path node = files.put path node := by
  have hnames : (files.put path node).names path = files.names path := rfl
  rw [put, hnames]
  exact congrArg (Files.mk · files.working) (FileNode.put_put node _ files.root)

theorem write_again (h : files.write path cs = .ok files') :
    files'.write path cs = .ok files' := by
  obtain ⟨init, name, -, hnames, hup, -, -, hpath, hneeds, -⟩ := write_eq_ok h
  obtain ⟨entries, hwalk, hget⟩ := walk_of_write h hnames hup
  have hwrite : files'.write path cs = .ok (files'.put path (.text cs)) :=
    write_of_walk (names_of_write h path ▸ hnames) hup hwalk (by simp [hget, isDirectory]) hpath
      hneeds
  rw [hwrite, eq_put_of_write h, put_put]

theorem find_of_write (h : files.write path cs = .ok files') {old new : FileNode}
    (hold : files.find other = .ok old)
    (hnew : at? (files.place other) files'.root = some new)
    (hkind : old.isDirectory = true → new.isDirectory = true) : files'.find other = .ok new := by
  obtain ⟨hempty, hfollow, hneeds⟩ := find_eq_ok.mp hold
  refine find_eq_ok.mpr ⟨hempty, ?_, fun h => hkind (hneeds h)⟩
  rw [names_of_write h, (sameBut_of_write h).follow_eq_at? (by simp [hfollow])]
  exact hnew

theorem read_of_write_same (h : files.write path cs = .ok files') {old : FileNode}
    (hold : files.find other = .ok old) (hplace : files.place other = files.place path) :
    files'.read other = .ok cs := by
  have hat := at?_of_find hold
  have hfile := (sameBut_of_write h).before_isDirectory
  rw [← hplace, hat] at hfile
  refine read_eq_ok.mpr (find_of_write h hold (hplace ▸ at?_of_write h) fun hdir => ?_)
  simp [hdir] at hfile

theorem read_of_write_other (h : files.write path cs = .ok files') {old : List Char}
    (hold : files.read other = .ok old) (hplace : files.place other ≠ files.place path) :
    files'.read other = .ok old := by
  have hfind := read_eq_ok.mp hold
  have houtline := (sameBut_of_write h).outline_eq hplace
  rw [at?_of_find hfind] at houtline
  cases hat : at? (files.place other) files'.root with
  | none => simp [hat] at houtline
  | some node =>
    cases node with
    | text cs =>
      obtain rfl : cs = old := by simpa [hat, outline] using houtline
      exact read_eq_ok.mpr (find_of_write h hfind hat id)
    | binary => simp [hat, outline] at houtline
    | directory entries => simp [hat, outline] at houtline

/-- A directory that the written file is not in keeps its entries, and all that is in them. -/
theorem list_of_write (h : files.write path cs = .ok files') {entries : List (String × FileNode)}
    (hold : files.list other = .ok entries) (hplace : ¬ files.place other <+: files.place path) :
    files'.list other = .ok entries := by
  have hfind := list_eq_ok.mp hold
  refine list_eq_ok.mpr (find_of_write h hfind ?_ id)
  obtain ⟨hdir, hfile⟩ := directory_of_write h
  obtain rfl := eq_put_of_write h
  exact (at?_put_apart hdir hfile rfl hplace).trans (at?_of_find hfind)

theorem find_unique {a b : String} {m n : FileNode} (ha : files.find a = .ok m)
    (hb : files.find b = .ok n) (hplace : files.place a = files.place b) : m = n := by
  have hm := at?_of_find ha
  rw [hplace, at?_of_find hb] at hm
  exact (Option.some.inj hm).symm

end Files

end OverlayConfig
