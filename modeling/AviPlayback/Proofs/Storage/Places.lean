import AviPlayback.Proofs.Outcome
import AviPlayback.Storage.FileTree

/-!
Places that paths lead to. A path that can be followed leads to its target, which depends on nothing
but the path and the working directory, so an operation that succeeds changes nothing but the target
of its path. Making directories changes no file.
-/
set_option autoImplicit false

namespace AviPlayback

namespace Path

@[simp] theorem names_empty : names "" = [] := by decide

/-- A slash ends one name and starts another. -/
theorem names_slash (front back : List Char) :
    names (String.ofList (front ++ '/' :: back)) =
      names (String.ofList front) ++ names (String.ofList back) := by
  simp only [names, String.toList_ofList, List.splitOn_append_cons_self, List.map_append,
    List.filter_append]

/-- A text without a slash is one name. -/
theorem names_of_not_mem {name : String} (hslash : '/' ∉ name.toList) (hname : name ≠ "") :
    names name = [name] := by
  rw [names, List.splitOn_eq_singleton hslash]
  simp [hname]

theorem not_isAbsolute {name : String} (hslash : '/' ∉ name.toList) : isAbsolute name = false := by
  rw [isAbsolute, beq_eq_false_iff_ne]
  intro h
  exact hslash (List.mem_of_head? h)

section Join

variable {dir name : String}

/-- Below a directory comes one more name. -/
theorem names_join (hslash : '/' ∉ name.toList) (hname : name ≠ "") :
    names (join dir name) = names dir ++ [name] := by
  have hnames := names_of_not_mem hslash hname
  rw [join, not_isAbsolute hslash, Bool.false_or]
  split
  · next hempty => rw [String.isEmpty_iff.mp hempty, hnames, names_empty, List.nil_append]
  split
  · next hends =>
    obtain ⟨front, hfront⟩ : ∃ front, dir.toList = front ++ ['/'] := by
      rw [endsInSlash, beq_iff_eq] at hends
      exact List.getLast?_eq_some_iff.mp hends
    have hdir : dir = String.ofList (front ++ '/' :: []) := by
      rw [← hfront, String.ofList_toList]
    have hjoined : dir ++ name = String.ofList (front ++ '/' :: name.toList) := by
      apply String.toList_injective
      simp [hfront]
    rw [hjoined, names_slash, String.ofList_toList, hnames, hdir, names_slash]
    simp
  · have hjoined : dir ++ "/" ++ name = String.ofList (dir.toList ++ '/' :: name.toList) := by
      apply String.toList_injective
      simp
    rw [hjoined, names_slash, String.ofList_toList, String.ofList_toList, hnames]

/-- A path below a directory starts where the directory's own path does. -/
theorem isAbsolute_join (hslash : '/' ∉ name.toList) :
    isAbsolute (join dir name) = isAbsolute dir := by
  have hname := not_isAbsolute hslash
  rw [join, hname, Bool.false_or]
  split
  · next hempty => rw [String.isEmpty_iff.mp hempty, hname, isAbsolute]; rfl
  · next hne =>
    obtain ⟨c, rest, hdir⟩ := List.exists_cons_of_ne_nil (show dir.toList ≠ [] by simpa using hne)
    split <;> simp [isAbsolute, hdir]

end Join

end Path

namespace FileTree

variable {t t' : FileTree} {place other : Place} {path : String}

/-! ### What is where -/

theorem node?_put_of_ne (t : FileTree) (node : Node) (h : other ≠ place) :
    (t.put place node).node? other = t.node? other := by
  have hmiss : (other == place) = false := beq_eq_false_iff_ne.mpr h
  have hkept (nodes : List (Place × Node)) :
      (nodes.filter fun n => n.1 != place).lookup other = nodes.lookup other := by
    induction nodes with
    | nil => rfl
    | cons n nodes ih =>
      obtain ⟨there, _⟩ := n
      rw [List.lookup_cons, ← ih]
      by_cases hn : there = place
      · simp [hn, hmiss]
      · simp [hn, List.lookup_cons]
  have hlast : [(place, node)].lookup other = none := by simp [List.lookup_cons, hmiss]
  simp only [node?, put, List.lookup_append, hkept, hlast, Option.or_none]

def putAll (t : FileTree) (things : List (Place × Node)) : FileTree :=
  things.foldl (fun t thing => t.put thing.1 thing.2) t

theorem putAll_append (first rest : List (Place × Node)) :
    t.putAll (first ++ rest) = (t.putAll first).putAll rest := List.foldl_append

@[simp] theorem home_putAll (things : List (Place × Node)) : (t.putAll things).home = t.home := by
  induction things generalizing t with
  | nil => rfl
  | cons thing things ih => exact ih

theorem node?_putAll_of_notMem {things : List (Place × Node)} (h : place ∉ things.map (·.1)) :
    (t.putAll things).node? place = t.node? place := by
  induction things generalizing t with
  | nil => rfl
  | cons thing things ih =>
    obtain ⟨hne, hrest⟩ := not_or.mp (mt List.mem_cons.mpr h)
    exact (ih hrest).trans (node?_put_of_ne t thing.2 hne)

/-- What is put at different places stays there. -/
theorem node?_putAll_of_mem {things : List (Place × Node)} (hplaces : (things.map (·.1)).Nodup)
    {node : Node} (h : (place, node) ∈ things) (hplace : place ≠ []) :
    (t.putAll things).node? place = some node := by
  induction things generalizing t with
  | nil => cases h
  | cons thing things ih =>
    obtain ⟨hfirst, hrest⟩ := List.nodup_cons.mp hplaces
    rcases List.mem_cons.mp h with rfl | h
    · exact (node?_putAll_of_notMem hfirst).trans (node?_put t node hplace)
    · exact ih hrest h

/-- Afterwards there is what was put at different places, and elsewhere what was there before. -/
theorem node?_putAll_eq_some_iff {things : List (Place × Node)}
    (hplaces : (things.map (·.1)).Nodup) (hroot : [] ∉ things.map (·.1)) {node : Node} :
    (t.putAll things).node? place = some node ↔
      (place, node) ∈ things ∨ place ∉ things.map (·.1) ∧ t.node? place = some node := by
  by_cases hplace : place ∈ things.map (·.1)
  · obtain ⟨⟨_, put⟩, hput, rfl⟩ := List.mem_map.mp hplace
    have hnode := node?_putAll_of_mem (t := t) hplaces hput fun h => hroot (h ▸ hplace)
    rw [hnode]
    constructor
    · rintro ⟨⟩
      exact .inl hput
    · rintro (hmem | ⟨hfree, -⟩)
      · rw [← hnode, node?_putAll_of_mem hplaces hmem fun h => hroot (h ▸ hplace)]
      · exact absurd hplace hfree
  · rw [node?_putAll_of_notMem hplace]
    constructor
    · exact fun h => .inr ⟨hplace, h⟩
    · rintro (hmem | ⟨-, h⟩)
      · exact absurd (List.mem_map_of_mem hmem) hplace
      · exact h

/-! ### Where paths lead -/

def target (t : FileTree) (path : String) : Place :=
  (Path.names path).foldl step (if Path.isAbsolute path then [] else t.home)

theorem follow_eq_ok {names : List String} {last : Place} (h : t.follow place names = .ok last) :
    last = names.foldl step place := by
  induction names generalizing place with
  | nil =>
    cases h
    rfl
  | cons name names ih =>
    obtain ⟨_, _, h⟩ := bind_eq_ok_iff.mp h
    split at h
    · cases h
    · exact ih h

theorem locate_eq_ok (h : t.locate path = .ok place) : place = t.target path := by
  unfold locate at h
  split at h
  · cases h
  split at h
  · cases h
  split at h
  · cases h
  exact follow_eq_ok h

theorem target_congr (h : t'.home = t.home) (path : String) : t'.target path = t.target path := by
  rw [target, target, h]

/-- A name below a directory leads to an entry of it. -/
theorem target_join {dir name : String} (hslash : '/' ∉ name.toList) (hname : name ≠ "")
    (hself : name ≠ ".") (habove : name ≠ "..") :
    t.target (Path.join dir name) = t.target dir ++ [name] := by
  rw [target, Path.names_join hslash hname, Path.isAbsolute_join hslash, List.foldl_append]
  simp only [List.foldl_cons, List.foldl_nil, step, if_neg hself, if_neg habove, target]

/-! ### Operations that succeed -/

theorem write_eq_ok {bytes : Bytes} (h : t.write path bytes = .ok t') :
    t' = t.put (t.target path) (.file bytes) := by
  obtain ⟨place, hplace, rfl⟩ := map_eq_ok_iff.mp h
  obtain ⟨located, hlocated, hplace⟩ := bind_eq_ok_iff.mp hplace
  split at hplace
  · cases hplace
  · cases hplace
    rw [locate_eq_ok hlocated]

/-- Nothing but directories is different. -/
structure SameFiles (t t' : FileTree) : Prop where
  home : t'.home = t.home
  node : ∀ place bytes, t'.node? place = some (.file bytes) ↔ t.node? place = some (.file bytes)

namespace SameFiles

theorem refl (t : FileTree) : SameFiles t t := ⟨rfl, fun _ _ => Iff.rfl⟩

theorem trans {t₁ t₂ t₃ : FileTree} (h : SameFiles t₁ t₂) (h' : SameFiles t₂ t₃) :
    SameFiles t₁ t₃ :=
  ⟨h'.home.trans h.home, fun place bytes => (h'.node place bytes).trans (h.node place bytes)⟩

/-- A directory is made where nothing was. -/
theorem makeDirectory (h : t.makeDirectory path = .ok t') : SameFiles t t' := by
  obtain ⟨place, _, h⟩ := bind_eq_ok_iff.mp h
  split at h
  · cases h
  next hfree =>
  cases h
  have hnode : t.node? place = none := by
    rw [Bool.or_eq_true, not_or] at hfree
    simpa using hfree.2
  have hplace : place ≠ [] := by
    rintro rfl
    cases hnode
  refine ⟨rfl, fun other bytes => ?_⟩
  by_cases hother : other = place
  · rw [hother, node?_put t _ hplace, hnode]
    simp
  · rw [node?_put_of_ne t _ hother]

theorem makeDirectories (path : String) (fuel : Nat) (t : FileTree) :
    SameFiles t (t.makeDirectories path fuel).2 := by
  induction fuel generalizing path t with
  | zero => exact refl t
  | succ fuel ih =>
    unfold FileTree.makeDirectories
    split
    · exact refl t
    split
    · next hmade => exact makeDirectory hmade
    split
    · split
      · exact refl t
      · next above _ =>
        have habove := ih above t
        split
        · next hmade => rwa [hmade] at habove
        · next hmade =>
          rw [hmade] at habove
          split
          · next hlast => exact habove.trans (makeDirectory hlast)
          · exact habove
    · exact refl t

theorem ensureDirectory (t : FileTree) (path : String) :
    SameFiles t (t.ensureDirectory path).2 := makeDirectories path _ t

end SameFiles

end FileTree

end AviPlayback
