import CodeGloss.Files.Tree

/-! # Reading a file that was written

A file that was written within the tree has the content that was written (`read_of_write`).  Writing
changes one node, and that one was not a folder before; so whatever could be entered can still be
entered (`enter_put`), and the path leads to the new file as it led to its place.

A path that has no name `..` and does not start at the root stays within the tree
(`exists_foldlM_enter_inside`).
-/
namespace CodeGloss
namespace FileTree

open Text

variable {tree tree' : FileTree} {target route : Route} {content : List UInt8}

/-! ## One node in its place -/

theorem lookup_putIn (target : Route) (node : Node) (nodes : List (Route × Node)) (route : Route) :
    (put.putIn target node nodes).lookup route =
      if route = target then some node else nodes.lookup route := by
  induction nodes with
  | nil =>
    rw [put.putIn, List.lookup_cons]
    by_cases h : route = target
    · simp [h]
    · simp [h, beq_false_of_ne h]
  | cons entry later ih =>
    obtain ⟨r, n⟩ := entry
    rw [put.putIn, List.lookup_cons]
    split
    next hr =>
      subst hr
      rw [List.lookup_cons]
      by_cases h : route = target
      · simp [h]
      · simp [h, beq_false_of_ne h]
    next hr =>
      rw [List.lookup_cons, ih]
      by_cases h : route = r
      · simp [h, Ne.symm hr]
      · simp [beq_false_of_ne h]

theorem node?_put (htarget : target ≠ []) (node : Node) (route : Route) :
    (tree.put target node).node? route =
      if route = target then some node else tree.node? route := by
  by_cases hroute : route = []
  · subst hroute
    rw [if_neg (Ne.symm htarget)]
    rfl
  · have hempty : route.isEmpty = false := by simpa using hroute
    simp only [node?, hempty, Bool.false_eq_true, if_false, put, lookup_putIn]

/-- A place for a file: there is no folder at it. -/
theorem isFolderAt_put (htarget : target ≠ []) (hfile : tree.node? target ≠ some .folder)
    (content : List UInt8) {location : Location} (h : tree.isFolderAt location = true) :
    (tree.put target (.file content)).isFolderAt location = true := by
  cases location with
  | outside => rfl
  | inside route =>
    have hfolder : tree.node? route = some .folder := of_decide_eq_true h
    have hne : route ≠ target := fun heq => hfile (heq ▸ hfolder)
    rw [isFolderAt, node?_put htarget, if_neg hne, hfolder]
    rfl

theorem isSome_node?_put (htarget : target ≠ []) (node : Node)
    (h : (tree.node? route).isSome = true) :
    ((tree.put target node).node? route).isSome = true := by
  rw [node?_put htarget]
  split
  · rfl
  · exact h

/-! ## Following a path -/

/-- The location above another one. -/
def Location.above : Location → Location
  | .outside => .outside
  | .inside route => if route.isEmpty then .outside else .inside route.dropLast

theorem up_ne_here : Path.up ≠ Path.here := by
  decide

/-- **What it takes to enter a name**: a folder, and a name that stays there, leads up or is that of
a node. -/
theorem enter_eq_ok_iff {location reached : Location} {name : Text} :
    tree.enter location name = .ok reached ↔ tree.isFolderAt location = true ∧
      (name = Path.here ∧ location = reached ∨
        name ≠ Path.here ∧ Path.isTooLong name = false ∧
          (name = Path.up ∧ location.above = reached ∨
            name ≠ Path.up ∧ ∃ route, location = .inside route ∧
              (tree.node? (route ++ [name])).isSome = true ∧
              .inside (route ++ [name]) = reached)) := by
  unfold enter
  cases hfolder : tree.isFolderAt location with
  | false => simp
  | true =>
    by_cases hhere : name = Path.here
    · simp [hhere]
    cases hlong : Path.isTooLong name with
    | true => simp [hhere]
    | false =>
      cases location with
      | outside => by_cases hup : name = Path.up <;> simp [hhere, hup, up_ne_here, Location.above]
      | inside route =>
        by_cases hup : name = Path.up
        · simp [hup, up_ne_here, Location.above]
        · cases hnode : (tree.node? (route ++ [name])).isSome <;> simp [hhere, hup, hnode]

/-- What could be entered can be entered when a file has been written. -/
theorem enter_put (htarget : target ≠ []) (hfile : tree.node? target ≠ some .folder)
    (content : List UInt8) {location reached : Location} {name : Text}
    (h : tree.enter location name = .ok reached) :
    (tree.put target (.file content)).enter location name = .ok reached := by
  rw [enter_eq_ok_iff] at h ⊢
  obtain ⟨hfolder, hname⟩ := h
  refine ⟨isFolderAt_put htarget hfile content hfolder, ?_⟩
  rcases hname with hhere | ⟨hhere, hlong, hup | ⟨hup, route, rfl, hnode, hreached⟩⟩
  · exact Or.inl hhere
  · exact Or.inr ⟨hhere, hlong, Or.inl hup⟩
  · exact Or.inr ⟨hhere, hlong, Or.inr ⟨hup, route, rfl,
      isSome_node?_put htarget (.file content) hnode, hreached⟩⟩

theorem foldlM_enter_put (htarget : target ≠ []) (hfile : tree.node? target ≠ some .folder)
    (content : List UInt8) {names : List Text} {location reached : Location}
    (h : names.foldlM tree.enter location = .ok reached) :
    names.foldlM (tree.put target (.file content)).enter location = .ok reached := by
  induction names generalizing location with
  | nil => exact h
  | cons name later ih =>
    rw [List.foldlM_cons] at h ⊢
    cases hentered : tree.enter location name with
    | error fault =>
      rw [hentered] at h
      cases h
    | ok entered =>
      rw [hentered] at h
      rw [enter_put htarget hfile content hentered]
      exact ih h

/-! ## Writing and reading -/

/-- What a file that could be written within the tree is like. -/
structure Written (tree tree' : FileTree) (path : Text) (content : List UInt8) (route : Route)
    (name : Text) : Prop where
  /-- The path can be looked at. -/
  checked : checkPath path = .ok ()
  /-- The name is the last one of the path. -/
  last : (Path.names path).getLast? = some name
  /-- The path does not ask for a folder. -/
  forFile : Path.wantsFolder path = false
  /-- The name is not that of the folder that has been reached. -/
  notHere : name ≠ Path.here
  /-- The name is not that of the folder above. -/
  notUp : name ≠ Path.up
  /-- The name can be looked at. -/
  fits : Path.isTooLong name = false
  /-- There is a folder for the file. -/
  folder : tree.isFolderAt (.inside route) = true
  /-- There is no folder in the place of the file. -/
  free : tree.node? (route ++ [name]) ≠ some .folder
  /-- The file has been put in its place. -/
  eq : tree' = tree.put (route ++ [name]) (.file content)

theorem exists_foldlM_eq_of_write {path : Text} (h : tree.write path content = .ok tree') :
    ∃ folder, (Path.names path).dropLast.foldlM tree.enter (start path) = .ok folder := by
  cases hfolder : (Path.names path).dropLast.foldlM tree.enter (start path) with
  | ok folder => exact ⟨folder, rfl⟩
  | error fault =>
    unfold write at h
    cases hchecked : checkPath path <;> simp [hchecked, hfolder, bind, Except.bind] at h

theorem exists_written {path : Text}
    (hfolder : (Path.names path).dropLast.foldlM tree.enter (start path) = .ok (.inside route))
    (h : tree.write path content = .ok tree') :
    ∃ name, Written tree tree' path content route name := by
  unfold write at h
  cases hchecked : checkPath path with
  | error fault =>
    rw [hchecked] at h
    cases h
  | ok _ =>
    simp only [hchecked, hfolder, bind, Except.bind] at h
    cases hplace : tree.isFolderAt (.inside route) with
    | false =>
      rw [hplace] at h
      cases h
    | true =>
      cases hlast : (Path.names path).getLast? with
      | none =>
        simp only [hplace, hlast] at h
        cases h
      | some name =>
        simp only [hplace, hlast, Bool.not_true, Bool.false_eq_true, if_false] at h
        split at h
        next => cases h
        next hfile =>
          split at h
          next => cases h
          next hfits =>
            split at h
            next => cases h
            next hfree =>
              simp only [Bool.or_eq_true, decide_eq_true_eq, not_or, Bool.not_eq_true] at hfile hfits
              exact ⟨name, hchecked, hlast, hfile.1.1, hfile.1.2, hfile.2, hfits, hplace, hfree,
                (Except.ok.inj h).symm⟩

/-- **A file that was written within the tree has the content that was written.** -/
theorem read_of_write {path : Text}
    (hfolder : (Path.names path).dropLast.foldlM tree.enter (start path) = .ok (.inside route))
    (h : tree.write path content = .ok tree') : tree'.read path = .ok content := by
  obtain ⟨name, hwritten⟩ := exists_written hfolder h
  have htarget : route ++ [name] ≠ [] := List.append_ne_nil_of_right_ne_nil _ (List.cons_ne_nil _ _)
  have hnode : tree'.node? (route ++ [name]) = some (.file content) := by
    rw [hwritten.eq, node?_put htarget, if_pos rfl]
  have hreached : (Path.names path).dropLast.foldlM tree'.enter (start path) = .ok (.inside route) :=
    hwritten.eq ▸ foldlM_enter_put htarget hwritten.free content hfolder
  have henter : tree'.enter (.inside route) name = .ok (.inside (route ++ [name])) := by
    refine enter_eq_ok_iff.mpr ⟨?_, Or.inr ⟨hwritten.notHere, hwritten.fits,
      Or.inr ⟨hwritten.notUp, route, rfl, by rw [hnode]; rfl, rfl⟩⟩⟩
    exact hwritten.eq ▸ isFolderAt_put htarget hwritten.free content hwritten.folder
  have hfollowed : (Path.names path).foldlM tree'.enter (start path) =
      .ok (.inside (route ++ [name])) := by
    obtain ⟨front, hnames⟩ := List.getLast?_eq_some_iff.mp hwritten.last
    rw [hnames, List.dropLast_concat] at hreached
    rw [hnames, List.foldlM_append, hreached]
    simp only [bind, Except.bind, List.foldlM_cons, henter, List.foldlM_nil]
    rfl
  have hlocated : tree'.locate path = .ok (.inside (route ++ [name])) := by
    rw [locate, hwritten.checked]
    simp only [bind, Except.bind, hfollowed, hwritten.forFile, Bool.false_and, Bool.false_eq_true,
      if_false]
  rw [read, hlocated]
  simp only [bind, Except.bind, fileAt?, hnode]

/-! ## Paths that stay within the tree -/

theorem exists_enter_eq_inside {name : Text} (hup : name ≠ Path.up) {reached : Location}
    (h : tree.enter (.inside route) name = .ok reached) : ∃ route', reached = .inside route' := by
  obtain ⟨-, ⟨-, rfl⟩ | ⟨-, -, ⟨heq, -⟩ | ⟨-, r, -, -, rfl⟩⟩⟩ := enter_eq_ok_iff.mp h
  · exact ⟨route, rfl⟩
  · exact absurd heq hup
  · exact ⟨_, rfl⟩

theorem exists_foldlM_enter_eq_inside {names : List Text} (hup : Path.up ∉ names)
    {reached : Location} (h : names.foldlM tree.enter (.inside route) = .ok reached) :
    ∃ route', reached = .inside route' := by
  induction names generalizing route with
  | nil => exact ⟨route, (Except.ok.inj h).symm⟩
  | cons name later ih =>
    rw [List.mem_cons, not_or] at hup
    rw [List.foldlM_cons] at h
    cases hentered : tree.enter (.inside route) name with
    | error fault =>
      rw [hentered] at h
      cases h
    | ok entered =>
      rw [hentered] at h
      obtain ⟨route', rfl⟩ := exists_enter_eq_inside (Ne.symm hup.1) hentered
      exact ih hup.2 h

/-- **A file below the working folder is read as it was written.** -/
theorem read_of_write_below {path : Text} (hrooted : Path.isRooted path = false)
    (hup : Path.up ∉ Path.names path) (h : tree.write path content = .ok tree') :
    tree'.read path = .ok content := by
  have hstart : start path = .inside [] := by
    rw [start, hrooted]
    rfl
  obtain ⟨folder, hfolder⟩ := exists_foldlM_eq_of_write h
  have hupFront : Path.up ∉ (Path.names path).dropLast :=
    fun hmem => hup (List.dropLast_subset _ hmem)
  obtain ⟨route, rfl⟩ := exists_foldlM_enter_eq_inside hupFront (hstart ▸ hfolder)
  exact read_of_write hfolder h

/-! ## Names in the working folder -/

/-- **A path that is nothing but a name** in the working folder. -/
structure PlainName (name : Text) : Prop where
  /-- The path can be looked at. -/
  checked : checkPath name = .ok ()
  /-- The path has one name, the name itself. -/
  names : Path.names name = [name]
  /-- The path starts in the working folder. -/
  notRooted : Path.isRooted name = false
  /-- The path does not ask for a folder. -/
  forFile : Path.wantsFolder name = false
  /-- The name is not that of the folder that has been reached. -/
  notHere : name ≠ Path.here
  /-- The name is not that of the folder above. -/
  notUp : name ≠ Path.up
  /-- The name can be looked at. -/
  fits : Path.isTooLong name = false

namespace PlainName

variable {name : Text}

theorem start_eq (h : PlainName name) : start name = .inside [] := by
  rw [start, h.notRooted]
  rfl

theorem enter_eq (h : PlainName name) (tree : FileTree) :
    tree.enter (.inside []) name =
      if (tree.node? [name]).isSome then .ok (.inside [name]) else .error .notFound := by
  have hfolder : tree.isFolderAt (.inside []) = true := rfl
  rw [enter, hfolder, if_neg (by decide), if_neg h.notHere, h.fits, if_neg Bool.false_ne_true,
    if_neg h.notUp, List.nil_append]

theorem locate_of_isSome (h : PlainName name) (hnode : (tree.node? [name]).isSome = true) :
    tree.locate name = .ok (.inside [name]) := by
  have henter := h.enter_eq tree
  rw [if_pos hnode] at henter
  simp only [locate, h.checked, h.names, h.start_eq, h.forFile, henter, List.foldlM_cons,
    List.foldlM_nil, bind, Except.bind, pure, Except.pure, Bool.false_and, Bool.false_eq_true,
    if_false]

theorem locate_of_none (h : PlainName name) (hnode : tree.node? [name] = none) :
    tree.locate name = .error .notFound := by
  have henter := h.enter_eq tree
  rw [hnode, if_neg (by decide)] at henter
  simp only [locate, h.checked, h.names, h.start_eq, henter, List.foldlM_cons, bind, Except.bind]

theorem hasNode_eq (h : PlainName name) (tree : FileTree) :
    tree.hasNode name = (tree.node? [name]).isSome := by
  cases hnode : tree.node? [name] with
  | none => rw [hasNode, h.locate_of_none hnode]; rfl
  | some node => rw [hasNode, h.locate_of_isSome (by rw [hnode]; rfl)]; rfl

theorem hasFile_of_file (h : PlainName name) (hnode : tree.node? [name] = some (.file content)) :
    tree.hasFile name = true := by
  rw [hasFile, h.locate_of_isSome (by rw [hnode]; rfl)]
  dsimp only
  rw [fileAt?, hnode]
  rfl

theorem read_of_file (h : PlainName name) (hnode : tree.node? [name] = some (.file content)) :
    tree.read name = .ok content := by
  simp only [read, h.locate_of_isSome (by rw [hnode]; rfl), bind, Except.bind, fileAt?, hnode]

/-- Where there is nothing of the name a file can be written. -/
theorem write_of_none (h : PlainName name) (hnode : tree.node? [name] = none)
    (content : List UInt8) : tree.write name content = .ok (tree.put [name] (.file content)) := by
  have hfolder : tree.isFolderAt (.inside []) = true := rfl
  simp [write, h.checked, h.names, h.start_eq, h.forFile, h.notHere, h.notUp, h.fits, hfolder,
    hnode, bind, Except.bind, pure, Except.pure]

end PlainName

end FileTree
end CodeGloss
