import ContractBindings.Proofs.Disk.Walk

/-!
# Paths and their steps

A name put below a path is the last step of a walk along the path that results.

1. `parts_append_slash`: the parts of texts with a slash between them.
2. `names_join`, `steps_join`, `steps_foldl_join`: a name below a path is one step more, and the
   last.
3. `exists_append_of_foldl_join`, `foldl_join_eq`: names below a path are put after it.
4. `steps_suffix`, `place_suffix`: names put after one path are names in one directory.
5. `start_join`, `place_join`: the walk starts where a walk along the path above would, and ends
   below it.
-/

namespace ContractBindings.Disk.Path

/-! ## Parts -/

theorem parts_ne_nil (s : List Char) : parts s ≠ [] := by
  cases s with
  | nil => simp [parts]
  | cons c rest =>
    rw [parts]
    split
    · simp
    · split <;> simp

theorem parts_of_no_slash {s : List Char} (h : '/' ∉ s) : parts s = [s] := by
  induction s with
  | nil => rfl
  | cons c rest ih =>
    rw [List.mem_cons, not_or] at h
    rw [parts, if_neg (Ne.symm h.1), ih h.2]

/-- A slash parts what is before it from what is after it. -/
theorem parts_append_slash (s t : List Char) : parts (s ++ '/' :: t) = parts s ++ parts t := by
  induction s with
  | nil => simp [parts]
  | cons c s ih =>
    rw [List.cons_append, parts, parts, ih]
    split
    · rfl
    · cases hs : parts s with
      | nil => exact absurd hs (parts_ne_nil s)
      | cons part others => rfl

/-! ## Names -/

/-- A text that can be the name of an entry, as far as paths go. -/
def IsName (name : String) : Prop := name ≠ "" ∧ '/' ∉ name.toList

instance (name : String) : Decidable (IsName name) :=
  inferInstanceAs (Decidable (_ ∧ _))

theorem isName_append {s t : String} (hs : '/' ∉ s.toList) (ht : IsName t) : IsName (s ++ t) := by
  refine ⟨?_, ?_⟩
  · intro hempty
    have hlist := congrArg String.toList hempty
    rw [String.toList_append] at hlist
    exact ht.1 (String.toList_eq_nil_iff.1 (List.append_eq_nil_iff.1 hlist).2)
  · rw [String.toList_append, List.mem_append]
    exact not_or.2 ⟨hs, ht.2⟩

theorem isAbsolute_of_isName {name : String} (h : IsName name) : isAbsolute name = false := by
  unfold isAbsolute
  cases hs : name.toList with
  | nil => rfl
  | cons c rest =>
    have hc : c ≠ '/' := fun hc => h.2 (by simp [hs, hc])
    simpa using hc

theorem names_of_isName {name : String} (h : IsName name) : names name = [name] := by
  have hne : name.toList ≠ [] := by simpa using h.1
  simp [names, parts_of_no_slash h.2, hne]

theorem names_append_slash (s t : String) : names (s ++ "/" ++ t) = names s ++ names t := by
  have hchars : (s ++ "/" ++ t).toList = s.toList ++ '/' :: t.toList := by simp
  simp [names, hchars, parts_append_slash]

/-- A slash at the end adds no name. -/
theorem names_append_slash_end (s : String) : names (s ++ "/") = names s := by
  have h := names_append_slash s ""
  rw [String.append_empty] at h
  simpa [names, parts] using h

theorem eq_append_slash {path : String} (h : endsInSlash path) : ∃ s, path = s ++ "/" := by
  unfold endsInSlash at h
  rw [beq_iff_eq] at h
  obtain ⟨s, hs⟩ := List.getLast?_eq_some_iff.1 h
  refine ⟨String.ofList s, ?_⟩
  rw [← String.toList_inj, hs]
  simp

theorem endsInSlash_append {s name : String} (h : IsName name) :
    endsInSlash (s ++ name) = false := by
  have hne : name.toList ≠ [] := by simpa using h.1
  have hlast : (s ++ name).toList.getLast? = name.toList.getLast? := by
    rw [String.toList_append, List.getLast?_append_of_ne_nil _ hne]
  unfold endsInSlash
  rw [hlast, List.getLast?_eq_some_getLast hne]
  have hmem := List.getLast_mem hne
  have : name.toList.getLast hne ≠ '/' := fun hslash => h.2 (hslash ▸ hmem)
  simpa using this

theorem join_of_isName {base name : String} (h : IsName name) :
    join base name =
      if base.isEmpty || endsInSlash base then base ++ name else base ++ "/" ++ name := by
  rw [join, isAbsolute_of_isName h]
  rfl

/-- A name below a path is one name more. -/
theorem names_join {base name : String} (h : IsName name) :
    names (join base name) = names base ++ [name] := by
  rw [join_of_isName h]
  split
  · next hbase =>
    rw [Bool.or_eq_true] at hbase
    rcases hbase with hempty | hslash
    · obtain rfl : base = "" := by simpa using hempty
      simpa [names, parts] using names_of_isName h
    · obtain ⟨s, rfl⟩ := eq_append_slash hslash
      rw [names_append_slash, names_append_slash_end, names_of_isName h]
  · rw [names_append_slash, names_of_isName h]

theorem steps_join {base name : String} (h : IsName name) :
    steps (join base name) = names base ++ [name] := by
  have hslash : endsInSlash (join base name) = false := by
    rw [join_of_isName h]
    split
    · exact endsInSlash_append h
    · exact endsInSlash_append h
  rw [steps, names_join h, hslash]
  simp

/-- Names put after one path lead through the same names before. -/
theorem steps_suffix (base : String) :
    ∃ above tip, "" ∉ above ∧
      ∀ name, IsName name → steps (base ++ name) = above ++ [tip ++ name] := by
  by_cases hslash : '/' ∈ base.toList
  · -- the last slash parts the names before from the last part
    obtain ⟨before, after, hsplit, hlast⟩ :=
      List.eq_append_cons_of_mem (List.mem_reverse.2 hslash)
    have hbase : base = String.ofList after.reverse ++ "/" ++ String.ofList before.reverse := by
      rw [← String.toList_inj, ← List.reverse_reverse base.toList, hsplit]
      simp
    refine ⟨names (String.ofList after.reverse), String.ofList before.reverse, ?_, ?_⟩
    · intro hempty
      obtain ⟨part, hpart, hpartEmpty⟩ := List.mem_map.1 hempty
      have hne := (List.mem_filter.1 hpart).2
      simp_all
    · intro name hname
      have htip : IsName (String.ofList before.reverse ++ name) :=
        isName_append (by simpa using hlast) hname
      rw [steps, endsInSlash_append hname, hbase, String.append_assoc, names_append_slash,
        names_of_isName htip]
      simp
  · refine ⟨[], base, by simp, ?_⟩
    intro name hname
    rw [steps, endsInSlash_append hname, names_of_isName (isName_append hslash hname)]
    simp

theorem isAbsolute_append {s t : String} (h : s ≠ "") : isAbsolute (s ++ t) = isAbsolute s := by
  have hne : s.toList ≠ [] := by simpa using h
  obtain ⟨c, rest, hs⟩ := List.exists_cons_of_ne_nil hne
  simp [isAbsolute, hs]

/-- What a name is put after, below a path, is the last part of the path. -/
theorem join_append (base s : String) {name : String} (h : IsName name) :
    join base (s ++ name) = join base s ++ name := by
  have habsolute : isAbsolute (s ++ name) = isAbsolute s := by
    by_cases hs : s = ""
    · rw [hs, String.empty_append, isAbsolute_of_isName h]
      rfl
    · exact isAbsolute_append hs
  rw [join, join, habsolute]
  split
  · rfl
  · split <;> simp only [String.append_assoc]

theorem isAbsolute_join {base name : String} (h : IsName name) :
    isAbsolute (join base name) = isAbsolute base := by
  rw [join_of_isName h]
  by_cases hbase : base = ""
  · subst hbase
    have hhere : isAbsolute "" = false := rfl
    simpa [hhere] using isAbsolute_of_isName h
  · split
    · exact isAbsolute_append hbase
    · rw [String.append_assoc]
      exact isAbsolute_append hbase

/-- Names below a path, one after the other, are names more. -/
theorem names_foldl_join {base : String} {below : List String} (h : ∀ name ∈ below, IsName name) :
    names (below.foldl join base) = names base ++ below := by
  induction below generalizing base with
  | nil => simp
  | cons name below ih =>
    rw [List.forall_mem_cons] at h
    rw [List.foldl_cons, ih h.2, names_join h.1, List.append_assoc]
    rfl

/-- Names below a path are the last steps of a walk along the path that results. -/
theorem steps_foldl_join {base : String} {below : List String} (hne : below ≠ [])
    (h : ∀ name ∈ below, IsName name) : steps (below.foldl join base) = names base ++ below := by
  obtain ⟨front, name, rfl⟩ : ∃ front name, below = front ++ [name] :=
    ⟨_, _, (List.dropLast_concat_getLast hne).symm⟩
  rw [List.foldl_append, List.foldl_cons, List.foldl_nil, steps_join (h name (by simp)),
    names_foldl_join fun other hmem => h other (List.mem_append_left _ hmem), List.append_assoc]

theorem exists_append_of_join (base : String) {name : String} (h : IsName name) :
    ∃ rest, join base name = base ++ rest := by
  rw [join_of_isName h]
  split
  · exact ⟨name, rfl⟩
  · exact ⟨"/" ++ name, String.append_assoc ..⟩

/-- Names below a path are put after it. -/
theorem exists_append_of_foldl_join (base : String) {below : List String}
    (h : ∀ name ∈ below, IsName name) : ∃ rest, below.foldl join base = base ++ rest := by
  induction below generalizing base with
  | nil => exact ⟨"", (String.append_empty).symm⟩
  | cons name below ih =>
    rw [List.forall_mem_cons] at h
    obtain ⟨rest, hrest⟩ := exists_append_of_join base h.1
    obtain ⟨more, hmore⟩ := ih (join base name) h.2
    exact ⟨rest ++ more, by rw [List.foldl_cons, hmore, hrest, String.append_assoc]⟩

/-- A name below a path that is not empty comes after a slash. -/
theorem exists_slash_of_join {base name : String} (hbase : base ≠ "") (h : IsName name) :
    ∃ above, join base name = above ++ "/" ++ name := by
  rw [join_of_isName h]
  split
  · next hend =>
    have hslash : endsInSlash base = true := by simpa [hbase] using hend
    obtain ⟨above, rfl⟩ := eq_append_slash hslash
    exact ⟨above, rfl⟩
  · exact ⟨base, rfl⟩

/-- Below a path that does not end in a slash, there is one before each name. -/
theorem foldl_join_eq {base : String} {below : List String} (hbase : base ≠ "")
    (hslash : endsInSlash base = false) (h : ∀ name ∈ below, IsName name) :
    below.foldl join base = base ++ String.join (below.map ("/" ++ ·)) := by
  induction below generalizing base with
  | nil => exact (String.append_empty).symm
  | cons name below ih =>
    rw [List.forall_mem_cons] at h
    have hjoin : join base name = base ++ "/" ++ name := by simp [join_of_isName h.1, hbase, hslash]
    rw [List.foldl_cons, hjoin, ih (by simp) (endsInSlash_append h.1) h.2, List.map_cons,
      String.join_cons, String.append_assoc, String.append_assoc, String.append_assoc]

end Path

theorem start_join {base name : String} (h : Path.IsName name) (place : List String) :
    start place (Path.join base name) = start place base := by
  rw [start, start, Path.isAbsolute_join h]

theorem start_foldl_join {base : String} {below : List String}
    (h : ∀ name ∈ below, Path.IsName name) (place : List String) :
    start place (below.foldl Path.join base) = start place base := by
  induction below generalizing base with
  | nil => rfl
  | cons name below ih =>
    rw [List.forall_mem_cons] at h
    rw [List.foldl_cons, ih h.2, start_join h.1]

theorem descends_append (s : String) {t : String} (h : 3 ≤ t.length) : Descends (s ++ t) := by
  have hlong : 3 ≤ (s ++ t).length := by
    rw [String.length_append]
    omega
  refine ⟨?_, ?_, ?_⟩ <;> intro heq <;> rw [heq] at hlong <;> revert hlong <;> decide

/-- Names put after one path stand in one directory. -/
theorem place_suffix (base : String) (d : Disk) :
    ∃ directory tip, ∀ name, Path.IsName name → 3 ≤ name.length →
      d.place (base ++ name) = directory ++ [tip ++ name] := by
  obtain ⟨above, tip, -, hsteps⟩ := Path.steps_suffix base
  have hstart : ∃ begun, ∀ name, Path.IsName name → start d.here (base ++ name) = begun := by
    by_cases hbase : base = ""
    · refine ⟨start d.here "", fun name hname => ?_⟩
      rw [hbase, String.empty_append, start, Path.isAbsolute_of_isName hname]
      rfl
    · exact ⟨start d.here base, fun name _ => by rw [start, start, Path.isAbsolute_append hbase]⟩
  obtain ⟨begun, hstart⟩ := hstart
  refine ⟨resolve begun above, tip, fun name hname hlength => ?_⟩
  rw [place, hsteps name hname, hstart name hname, resolve_append,
    resolve_down (by simpa using descends_append tip hlength)]

/-- A name below a path leads to that name, wherever the path leads. -/
theorem place_join {base name : String} (h : Path.IsName name) (hname : Descends name) (d : Disk) :
    d.place (Path.join base name) =
      resolve (start d.here base) (Path.names base) ++ [name] := by
  rw [place, Path.steps_join h, start_join h, resolve_append,
    resolve_down (by simpa using hname)]

/-- All entries of directories have names that the operating system allows. -/
def Node.Named (root : Node) : Prop :=
  ∀ place name node, root.get? (place ++ [name]) = some node →
    Path.IsName name ∧ Descends name ∧ FitsEntry name

theorem Node.named_of_leaf {node : Node} (h : node.entries = []) : node.Named := by
  intro place name child hchild
  cases place with
  | nil => simp [Node.get?_cons, h] at hchild
  | cons _ _ => simp [Node.get?_cons, h] at hchild

theorem Node.named_dir {entries : List (String × Node)}
    (h : ∀ e ∈ entries, (Path.IsName e.1 ∧ Descends e.1 ∧ FitsEntry e.1) ∧ e.2.Named) :
    (Node.dir entries).Named := by
  intro place name node hnode
  cases place with
  | nil =>
    obtain ⟨child, hmem, -⟩ := Node.exists_entry_of_get? hnode
    exact (h _ hmem).1
  | cons first rest =>
    obtain ⟨child, hmem, hbelow⟩ := Node.exists_entry_of_get? hnode
    exact (h _ hmem).2 rest name node hbelow

/-- What is on the way to a node is named as the operating system allows. -/
theorem Node.Named.below {root node : Node} (h : root.Named) {place names : List String}
    (hget : root.get? (place ++ names) = some node) :
    ∀ name ∈ names, Path.IsName name ∧ Descends name ∧ FitsEntry name := by
  intro name hname
  obtain ⟨before, after, rfl⟩ := List.append_of_mem hname
  rw [List.append_cons, ← List.append_assoc, Node.get?_append] at hget
  obtain ⟨child, hchild, -⟩ := Option.bind_eq_some_iff.1 hget
  rw [← List.append_assoc] at hchild
  exact h _ name child hchild

/-- A name put below a path leads to the entry of that name. -/
theorem Node.Named.leads {d : Disk} (h : d.root.Named) {base name : String} {place : List String}
    {parent node : Node}
    (hbase : Leads d.root (start d.here base) (Path.names base) (.node place parent))
    (hnode : d.root.get? (place ++ [name]) = some node) :
    Leads d.root (start d.here (Path.join base name)) (Path.names (Path.join base name))
      (.node (place ++ [name]) node) := by
  obtain ⟨hisName, hname, hfits⟩ := h place name node hnode
  rw [start_join hisName, Path.names_join hisName]
  exact hbase.append (.down (dirAt_of_get? hnode) hname hfits hnode (.arrive hnode))

/-! ## Sound trees -/

/-- The tree has no links, and its directories have entries in order, with names that the operating
system allows. -/
structure Node.Sound (root : Node) : Prop where
  unlinked : root.Unlinked
  ordered : root.Ordered
  named : root.Named

theorem Node.sound_file (bytes : ByteArray) (attributes : Attributes) :
    (Node.file bytes attributes).Sound where
  unlinked := unlinked_file bytes attributes
  ordered := ordered_of_leaf rfl
  named := named_of_leaf rfl

theorem Node.sound_dir {entries : List (String × Node)}
    (hkeys : (entries.map Prod.fst).Pairwise (· < ·))
    (hnames : ∀ name ∈ entries.map Prod.fst, Path.IsName name ∧ Descends name ∧ FitsEntry name)
    (h : ∀ e ∈ entries, e.2.Sound) : (Node.dir entries).Sound where
  unlinked := unlinked_dir fun e he => (h e he).unlinked
  ordered := ordered_of_entries hkeys fun e he => (h e he).ordered
  named := named_dir fun e he => ⟨hnames e.1 (List.mem_map_of_mem he), (h e he).named⟩

theorem Node.sound_single {name : String} {child : Node}
    (hname : Path.IsName name ∧ Descends name ∧ FitsEntry name) (h : child.Sound) :
    (Node.dir [(name, child)]).Sound :=
  sound_dir (List.pairwise_singleton _ _) (List.forall_mem_singleton.2 hname)
    (List.forall_mem_singleton.2 h)

end ContractBindings.Disk
