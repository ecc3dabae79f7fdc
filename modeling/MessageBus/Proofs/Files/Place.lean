import MessageBus.Files
import MessageBus.Proofs.Result
/-!
The places that paths lead to. A path leads where it led before as long as no directory goes away, and
what is done through it is done to the node at that place.
-/
namespace MessageBus.Files
variable {f g h : Files} {p q : Place} {names : List String} {path : Path} {text : String}

theorem lookup_filter (nodes : List (Place × FileNode)) (hpq : q ≠ p) :
    (nodes.filter (·.1 != p)).lookup q = nodes.lookup q := by
  induction nodes with
  | nil => rfl
  | cons node nodes ih =>
    obtain ⟨r, n⟩ := node
    by_cases hr : r = p
    · have hq : (q == r) = false := beq_false_of_ne (hr ▸ hpq)
      simp [List.lookup_cons, hr, ih]
      simp [← hr, hq]
    · simp [List.lookup_cons, hr, ih]

theorem find?_erase_of_ne (f : Files) (hpq : q ≠ p) : (f.erase p).find? q = f.find? q := by
  simp [find?, erase, lookup_filter _ hpq]

theorem find?_put_of_ne (f : Files) (n : FileNode) (hpq : q ≠ p) :
    (f.put p n).find? q = f.find? q := by
  rw [← find?_erase_of_ne f hpq]
  simp [find?, put, List.lookup_cons, beq_false_of_ne hpq]

theorem put_erase (f : Files) (p : Place) (n : FileNode) : (f.erase p).put p n = f.put p n := by
  simp [put, erase, List.filter_filter]

/-- No directory goes away. -/
structure Keeps (f g : Files) : Prop where
  home : g.home = f.home
  directory : ∀ p, f.find? p = some .directory → g.find? p = some .directory

theorem Keeps.refl (f : Files) : f.Keeps f := ⟨rfl, fun _ hp => hp⟩

theorem Keeps.trans (hfg : f.Keeps g) (hgh : g.Keeps h) : f.Keeps h :=
  ⟨hgh.home.trans hfg.home, fun p hp => hgh.directory p (hfg.directory p hp)⟩

theorem keeps_put (n : FileNode) (hp : f.find? p ≠ some .directory) : f.Keeps (f.put p n) := by
  refine ⟨rfl, fun q hq => ?_⟩
  have hpq : q ≠ p := by
    rintro rfl
    exact hp hq
  rw [find?_put_of_ne f n hpq, hq]

theorem keeps_erase (hp : f.find? p ≠ some .directory) : f.Keeps (f.erase p) := by
  refine ⟨rfl, fun q hq => ?_⟩
  have hpq : q ≠ p := by
    rintro rfl
    exact hp hq
  rw [find?_erase_of_ne f hpq, hq]

theorem child_ok {name : String} {node : Option FileNode} :
    f.child p name = .ok node ↔
      name.utf8ByteSize ≤ longestName ∧ node = f.find? (p ++ [name]) := by
  unfold child
  by_cases hsize : longestName < name.utf8ByteSize
  · rw [if_pos hsize]
    constructor
    · intro h
      cases h
    · rintro ⟨hle, -⟩
      omega
  · rw [if_neg hsize]
    constructor
    · intro h
      cases h
      exact ⟨by omega, rfl⟩
    · rintro ⟨-, rfl⟩
      rfl

/-- Every part of a way through the tree is a directory. -/
theorem enter_cons {name : String} (hname : name ≠ "..") :
    f.enter p (name :: names) = .ok q ↔
      name.utf8ByteSize ≤ longestName ∧ f.find? (p ++ [name]) = some .directory ∧
      f.enter (p ++ [name]) names = .ok q := by
  rw [enter, if_neg hname, bind_ok]
  constructor
  · rintro ⟨node, hchild, hrest⟩
    obtain ⟨hsize, rfl⟩ := child_ok.1 hchild
    split at hrest
    · exact ⟨hsize, by assumption, hrest⟩
    · simp at hrest
    · simp at hrest
  · rintro ⟨hsize, hnode, hrest⟩
    exact ⟨some .directory, child_ok.2 ⟨hsize, hnode.symm⟩, hrest⟩

theorem enter_keeps (hk : f.Keeps g) (he : f.enter p names = .ok q) : g.enter p names = .ok q := by
  induction names generalizing p with
  | nil => exact he
  | cons name names ih =>
    by_cases hname : name = ".."
    · rw [enter, if_pos hname] at he ⊢
      exact ih he
    · obtain ⟨hsize, hnode, hrest⟩ := (enter_cons hname).1 he
      exact (enter_cons hname).2 ⟨hsize, hk.directory _ hnode, ih hrest⟩

theorem enter_append {more : List String} (he : f.enter p names = .ok q) :
    f.enter p (names ++ more) = f.enter q more := by
  induction names generalizing p with
  | nil =>
    have : p = q := by simpa [enter] using he
    rw [this, List.nil_append]
  | cons name names ih =>
    rw [List.cons_append]
    by_cases hname : name = ".."
    · rw [enter, if_pos hname] at he ⊢
      exact ih he
    · obtain ⟨hsize, hnode, hrest⟩ := (enter_cons hname).1 he
      have hchild : f.child p name = .ok (some .directory) := child_ok.2 ⟨hsize, hnode.symm⟩
      rw [enter, if_neg hname, hchild]
      exact ih hrest

theorem start_keeps (hk : f.Keeps g) (path : Path) : g.start path = f.start path := by
  simp [start, hk.home]

theorem locate_ok {size : Nat} {d : Place} {name : String} :
    f.locate size path = .ok (d, some name) ↔
      size ≤ longestPath ∧ path.parts.getLast? = some name ∧ name ≠ ".." ∧
      f.enter (f.start path) path.parts.dropLast = .ok d := by
  unfold locate
  by_cases hsize : longestPath < size
  · rw [if_pos hsize]
    constructor
    · intro h
      cases h
    · rintro ⟨hle, -⟩
      omega
  · rw [if_neg hsize]
    split
    · simp_all
    · rename_i hlast
      simp only [hlast, bind_ok, pure, Except.pure]
      simp
      grind
    · rename_i last hdots hlast
      simp [bind_ok, pure, Except.pure, hlast]
      grind

/-- The path leads to the place: what can be done with a file there can be done through the path. -/
structure Leads (f : Files) (text : String) (p : Place) : Prop where
  filled : text ≠ ""
  shape : Path.namesDirectory text = false
  located : ∃ d name, f.locate text.utf8ByteSize (.ofText text) = .ok (d, some name) ∧
    name.utf8ByteSize ≤ longestName ∧ p = d ++ [name]

theorem Leads.ne_nil (hl : f.Leads text p) : p ≠ [] := by
  obtain ⟨d, name, -, -, rfl⟩ := hl.located
  simp

theorem Leads.unique (hl : f.Leads text p) (hl' : f.Leads text q) : p = q := by
  obtain ⟨d, name, hd, -, rfl⟩ := hl.located
  obtain ⟨d', name', hd', -, rfl⟩ := hl'.located
  cases hd.symm.trans hd'
  rfl

theorem Leads.keeps (hl : f.Leads text p) (hk : f.Keeps g) : g.Leads text p := by
  obtain ⟨d, name, hd, hname, rfl⟩ := hl.located
  obtain ⟨hsize, hlast, hdots, henter⟩ := locate_ok.1 hd
  refine ⟨hl.filled, hl.shape, d, name, locate_ok.2 ⟨hsize, hlast, hdots, ?_⟩, hname, rfl⟩
  rw [start_keeps hk]
  exact enter_keeps hk henter

theorem dropSlashes_of_not_endsWithSlash (h : Path.endsWithSlash text = false) :
    Path.dropSlashes text = text := by
  unfold Path.endsWithSlash at h
  unfold Path.dropSlashes
  cases hlast : text.toList.reverse with
  | nil => simp_all
  | cons c rest =>
    have hc : c ≠ '/' := by
      intro hc
      simp [List.getLast?_eq_head?_reverse, hlast, hc] at h
    have hdrop : (c :: rest).dropWhile (· == '/') = c :: rest := by simp [hc]
    rw [hdrop, ← hlast, List.reverse_reverse, String.ofList_toList]

/-- A file is written at the place that its path leads to, where neither a directory nor a socket stood. -/
theorem write_ok {content : List UInt8} (hw : f.write text content = .ok g) :
    ∃ p, f.Leads text p ∧ f.find? p ≠ some .directory ∧ f.find? p ≠ some .socket ∧
      g = f.put p (.file content) := by
  unfold write at hw
  split at hw
  · simp at hw
  · rename_i hfilled
    obtain ⟨⟨d, name?⟩, hlocate, hw⟩ := bind_ok.1 hw
    cases name? with
    | none => simp at hw
    | some name =>
      dsimp only at hw
      split at hw
      · simp at hw
      · rename_i hslash
        obtain ⟨node, hchild, hw⟩ := bind_ok.1 hw
        obtain ⟨hname, rfl⟩ := child_ok.1 hchild
        split at hw
        · simp at hw
        · rename_i hnode
          split at hw
          · simp at hw
          · rename_i hshape
            have hends : Path.endsWithSlash text = false := by simp_all
            rw [dropSlashes_of_not_endsWithSlash hends] at hshape
            split at hw
            · simp at hw
            · rename_i hsocket
              have hg : g = f.put (d ++ [name]) (.file content) := by
                simpa [pure, Except.pure, eq_comm] using hw
              exact ⟨d ++ [name], ⟨hfilled, by simpa using hshape, d, name, hlocate, hname, rfl⟩,
                hnode, hsocket, hg⟩

/-- What is removed was no directory, and it was where its path leads. -/
theorem remove_ok (hr : f.remove text = .ok g) :
    ∃ p node, f.Leads text p ∧ f.find? p = some node ∧ node ≠ .directory ∧ g = f.erase p := by
  unfold remove at hr
  split at hr
  · simp at hr
  · rename_i hfilled
    obtain ⟨⟨d, name?⟩, hlocate, hr⟩ := bind_ok.1 hr
    cases name? with
    | none => simp at hr
    | some name =>
      obtain ⟨node, hchild, hr⟩ := bind_ok.1 hr
      obtain ⟨hname, rfl⟩ := child_ok.1 hchild
      split at hr
      · simp at hr
      · simp at hr
      · rename_i node hnone hnode
        split at hr
        · simp at hr
        · rename_i hshape
          have hg : g = f.erase (d ++ [name]) := by simpa [pure, Except.pure, eq_comm] using hr
          exact ⟨d ++ [name], node, ⟨hfilled, by simpa using hshape, d, name, hlocate, hname, rfl⟩,
            hnode, fun h => hnone h, hg⟩

/-- What is no directory is removed through the path that leads to it. -/
theorem Leads.remove_node (hl : f.Leads text p) {node : FileNode} (hp : f.find? p = some node)
    (hnode : node ≠ .directory) : f.remove text = .ok (f.erase p) := by
  obtain ⟨d, name, hd, hname, rfl⟩ := hl.located
  cases node with
  | directory => exact absurd rfl hnode
  | file | socket =>
    simp [remove, hl.filled, hd, child_ok.2 ⟨hname, rfl⟩, hp, hl.shape, bind, Except.bind, pure,
      Except.pure]

theorem Leads.remove_none (hl : f.Leads text p) (hp : f.find? p = none) :
    f.remove text = .error .notFound := by
  obtain ⟨d, name, hd, hname, rfl⟩ := hl.located
  simp [remove, hl.filled, hd, child_ok.2 ⟨hname, rfl⟩, hp, bind, Except.bind]

/-- The bytes of the parts of a path, with a slash after each. -/
def weight : List String → Nat
  | [] => 0
  | part :: parts => part.utf8ByteSize + 1 + weight parts

theorem size_eq_weight (path : Path) :
    path.size = weight path.parts - (if path.absolute then 0 else 1) := by
  have hfold : ∀ (parts : List String) (n : Nat),
      parts.foldl (fun n part => n + part.utf8ByteSize + 1) n = n + weight parts := by
    intro parts
    induction parts with
    | nil => simp [weight]
    | cons part parts ih =>
      intro n
      simp only [List.foldl_cons, ih, weight]
      omega
  simp [Path.size, hfold]

/-- The pieces of a text and the slashes between them have as many bytes as the text. -/
theorem weight_split (cs : List Char) :
    weight ((Text.split '/' cs).map String.ofList) = (String.ofList cs).utf8ByteSize + 1 := by
  have hslash : '/'.utf8Size = 1 := by decide
  induction cs with
  | nil => simp [Text.split, weight]
  | cons c cs ih =>
    rw [Text.split]
    split
    · rename_i hc
      rw [List.map_cons, weight, ih, hc, String.ofList_cons, String.utf8ByteSize_append,
        String.utf8ByteSize_singleton, hslash, String.ofList_nil, String.utf8ByteSize_empty]
      omega
    · split
      · rename_i hnil
        exact absurd hnil (Text.split_ne_nil _ _)
      · rename_i piece pieces hpieces
        rw [hpieces] at ih
        simp only [List.map_cons, weight, String.ofList_cons, String.utf8ByteSize_append] at ih ⊢
        omega

theorem weight_filter_le (pieces : List (List Char)) :
    weight ((pieces.filter Path.counts).map String.ofList) ≤ weight (pieces.map String.ofList) := by
  induction pieces with
  | nil => simp
  | cons piece pieces ih =>
    by_cases hcounts : Path.counts piece = true <;> simp [hcounts, weight] <;> omega

/-- A path is no longer than the text that it is written as. -/
theorem size_ofText_le (text : String) : (Path.ofText text).size ≤ text.utf8ByteSize := by
  obtain ⟨cs, rfl⟩ : ∃ cs, text = String.ofList cs := ⟨text.toList, String.ofList_toList.symm⟩
  have hsplit := weight_split cs
  have hfilter := weight_filter_le (Text.split '/' cs)
  rw [size_eq_weight]
  simp only [Path.ofText, String.toList_ofList]
  cases cs with
  | nil => simp [Text.split, Path.counts, weight]
  | cons c cs =>
    by_cases hc : c = '/'
    · -- The empty piece in front of the first slash does not count.
      have hrest := weight_filter_le (Text.split '/' cs)
      simp [hc, Text.split, Path.counts, weight] at hsplit hrest ⊢
      omega
    · have hrelative : (some c == some '/') = false := by simpa using hc
      simp only [List.head?_cons, hrelative, if_false, Bool.false_eq_true]
      omega

/-- What is found at a path is what stands where it leads. -/
theorem Leads.look (hl : f.Leads text p) :
    f.look (.ofText text) =
      match f.find? p with
      | some n => .ok n
      | none => .error .notFound := by
  obtain ⟨d, name, hd, hname, rfl⟩ := hl.located
  obtain ⟨hsize, hlast, hdots, henter⟩ := locate_ok.1 hd
  have hlocate : f.locate (Path.ofText text).size (.ofText text) = .ok (d, some name) :=
    locate_ok.2 ⟨Nat.le_trans (size_ofText_le text) hsize, hlast, hdots, henter⟩
  rw [Files.look, hlocate]
  cases hp : f.find? (d ++ [name]) <;>
    simp [child_ok.2 ⟨hname, rfl⟩, hp, bind, Except.bind, pure, Except.pure]

end MessageBus.Files
