import TwoStep.Process

/-!
# Reading what was written

After a write, the same path leads to the file with the new content.  A walk along
a path looks at one place after the other and goes on only through folders
(`Leads`), and the place where the file is put is no folder.  So every place the
walk went through is still the folder it was, and only the last one has changed
(`Leads.walk_withFile`).  Where a file can be put is said by `takesFile`; a write
succeeds exactly there (`write_ok_iff`), and `Slot` holds what comes of it.

The last part of a path is also its last part seen from the working folder, unless
the path leads back to that folder or to one above it, where no file can be put
(`WellFormed.getLast?_relative`).
-/

namespace TwoStep.Directory

/-! ## Files and folders after a write -/

/-- The directory with the content of one file replaced or added. -/
def withFile (d : Directory) (path : List String) (content : String) : Directory :=
  { d with files := put path content d.files }

section Put

variable (path : List String) (content : String) (files : List (List String × String))

theorem lookup_put : (put path content files).lookup path = some content := by
  induction files with
  | nil => simp [put]
  | cons f files ih =>
      rw [put]
      split
      case isTrue h => simp [h]
      case isFalse h => rw [List.lookup_cons, beq_false_of_ne (Ne.symm h), ih]

theorem lookup_put_of_ne {q : List String} (hne : q ≠ path) :
    (put path content files).lookup q = files.lookup q := by
  induction files with
  | nil => simp [put, hne]
  | cons f files ih =>
      obtain ⟨p, old⟩ := f
      rw [put]
      split
      case isTrue h => simp [List.lookup_cons, h, beq_false_of_ne hne]
      case isFalse h => rw [List.lookup_cons, List.lookup_cons, ih]

variable {path content files} in
theorem mem_put {f : List String × String} (h : f ∈ put path content files) :
    f ∈ files ∨ f.1 = path := by
  induction files with
  | nil =>
      obtain rfl := List.mem_singleton.mp h
      exact .inr rfl
  | cons g files ih =>
      obtain ⟨p, old⟩ := g
      rw [put] at h
      split at h
      case isTrue heq =>
          obtain rfl | h := List.mem_cons.mp h
          · exact .inr heq
          · exact .inl (List.mem_cons_of_mem _ h)
      case isFalse =>
          obtain rfl | h := List.mem_cons.mp h
          · exact .inl List.mem_cons_self
          · exact (ih h).imp_left (List.mem_cons_of_mem _)

theorem mem_map_fst_put {q : List String} (h : q ∈ files.map Prod.fst) :
    q ∈ (put path content files).map Prod.fst := by
  induction files with
  | nil => contradiction
  | cons f files ih =>
      obtain ⟨p, old⟩ := f
      rw [put]
      split
      case isTrue _ => simpa using h
      case isFalse _ =>
          obtain rfl | h := List.mem_cons.mp h
          · exact List.mem_cons_self
          · exact List.mem_cons_of_mem _ (ih h)

end Put

section WithFile

variable {d : Directory} {p q : List String} {content : String}

theorem isFolder_withFile (h : d.isFolder q = true) : (d.withFile p content).isFolder q = true := by
  simp only [isFolder, withFile, Bool.or_eq_true, List.any_eq_true] at h ⊢
  refine h.imp_right ?_
  rintro ⟨f, hf, hdown⟩
  obtain ⟨f', hf', heq⟩ :=
    List.mem_map.mp (mem_map_fst_put p content d.files (List.mem_map_of_mem hf))
  exact ⟨f', hf', heq ▸ hdown⟩

theorem entry_withFile (d : Directory) (p : List String) (content : String) :
    (d.withFile p content).entry p = .file p content := by
  rw [entry, withFile, lookup_put]

theorem entry_withFile_of_folder (h : d.entry q = .folder q) (hne : q ≠ p) :
    (d.withFile p content).entry q = .folder q := by
  rw [entry] at h
  split at h
  · contradiction
  next hlookup =>
    split at h
    · have hfolder : (d.withFile p content).isFolder q = true := isFolder_withFile ‹_›
      have hnone : (d.withFile p content).files.lookup q = none := by
        rw [withFile, lookup_put_of_ne _ _ _ hne, hlookup]
      rw [entry, hnone, if_pos hfolder]
    · contradiction

end WithFile

/-! ## Walks -/

/-- The parts at which a place takes a file: there is one, or nothing yet. -/
def Place.slot? : Place → Option (List String)
  | .file path _ => some path
  | .missing path => some path
  | .folder _ => none
  | .error _ => none

theorem entry_cases (d : Directory) (q : List String) :
    d.entry q = .folder q ∨ (d.entry q).slot? = some q := by
  rw [entry]
  split
  · exact .inr rfl
  · split
    · exact .inl rfl
    · exact .inr rfl

/-- Some parts lead from the folder at `q` to the place of a file at `p`: back and
forth between folders, and with the last of them to that place. -/
inductive Leads (d : Directory) (p : List String) : List String → List String → Prop
  | back {q rest : List String} (more : Leads d p q.dropLast rest) : Leads d p q (".." :: rest)
  | into {q rest : List String} {part : String} (forth : part ≠ "..")
      (short : part.utf8ByteSize ≤ nameLimit)
      (folder : d.entry (q ++ [part]) = .folder (q ++ [part]))
      (more : Leads d p (q ++ [part]) rest) : Leads d p q (part :: rest)
  | stop {q : List String} {part : String} (forth : part ≠ "..")
      (short : part.utf8ByteSize ≤ nameLimit) (here : p = q ++ [part])
      (slot : (d.entry p).slot? = some p) : Leads d p q [part]

/-- Behind a file or nothing there are no further parts. -/
theorem walk_slot {d : Directory} {place : Place} {p q rest : List String}
    (hplace : place.slot? = some q) (h : (d.walk place rest).slot? = some p) :
    rest = [] ∧ p = q := by
  cases rest with
  | nil =>
      rw [walk, hplace] at h
      exact ⟨rfl, (Option.some.inj h).symm⟩
  | cons part rest => cases place <;> contradiction

/-- A walk that ends at the place of a file has led to it. -/
theorem leads_of_walk {d : Directory} {p parts q : List String}
    (h : (d.walk (.folder q) parts).slot? = some p) : d.Leads p q parts := by
  induction parts generalizing q with
  | nil => contradiction
  | cons part rest ih =>
      rw [walk] at h
      split at h
      case isTrue hback =>
          obtain rfl := beq_iff_eq.mp hback
          exact .back (ih h)
      case isFalse hback =>
          have forth : part ≠ ".." := fun hpart => hback (beq_iff_eq.mpr hpart)
          split at h
          case isTrue => contradiction
          case isFalse hlong =>
              have short : part.utf8ByteSize ≤ nameLimit := Nat.le_of_not_lt hlong
              obtain hfolder | hslot := d.entry_cases (q ++ [part])
              · rw [hfolder] at h
                exact .into forth short hfolder (ih h)
              · obtain ⟨rfl, rfl⟩ := walk_slot hslot h
                exact .stop forth short rfl hslot

namespace Leads

variable {d : Directory} {p q parts : List String}

theorem entry (h : d.Leads p q parts) : (d.entry p).slot? = some p := by
  induction h with
  | back _ ih => exact ih
  | into _ _ _ _ ih => exact ih
  | stop _ _ _ slot => exact slot

/-- The way to a file is still there when the file has been written. -/
theorem walk_withFile (h : d.Leads p q parts) (content : String) :
    (d.withFile p content).walk (.folder q) parts = .file p content := by
  have hslot := h.entry
  induction h with
  | back _ ih =>
      rw [walk, if_pos (beq_self_eq_true _)]
      exact ih
  | @into q rest part forth short folder _ ih =>
      have hne : q ++ [part] ≠ p := by
        rintro rfl
        rw [folder] at hslot
        contradiction
      rw [walk, if_neg (by simpa using forth), if_neg (by omega),
        entry_withFile_of_folder folder hne]
      exact ih
  | stop forth short here =>
      rw [walk, if_neg (by simpa using forth), if_neg (by omega), ← here, entry_withFile]
      rfl

end Leads

/-! ## Writes -/

/-- Whether a file can be put at a path: there is one, or a name in a folder that
is still free. -/
def takesFile (d : Directory) (path : String) : Bool :=
  match d.find path with
  | .file .. => true
  | .missing _ => !meansFolder path
  | .folder _ => false
  | .error _ => false

/-- The folder from which a path is walked. -/
def start (d : Directory) (path : String) : List String := if isAbsolute path then [] else d.home

/-- A path is refused in every directory, or walked in each. -/
theorem find_cases (path : String) :
    (∃ e, ∀ d : Directory, d.find path = .error e) ∨
    ∀ d : Directory, d.find path =
      match d.walk (.folder (d.start path)) (parts path) with
      | .file p content => if meansFolder path then .error .notAFolder else .file p content
      | place => place := by
  simp only [find]
  split
  · exact .inl ⟨_, fun _ => rfl⟩
  split
  · exact .inl ⟨_, fun _ => rfl⟩
  split
  · exact .inl ⟨_, fun _ => rfl⟩
  · exact .inr fun _ => rfl

/-- The place to which a path leads that takes a file, and what a write does to
it. -/
structure Slot (d : Directory) (path : String) (p : List String) : Prop where
  leads : d.Leads p (d.start path) (parts path)
  writes (content : String) : d.write path content = .ok (d.withFile p content)
  finds (content : String) : (d.withFile p content).find path = .file p content

theorem slot_of_takesFile {d : Directory} {path : String} (h : d.takesFile path = true) :
    ∃ p, d.Slot path p := by
  obtain ⟨e, he⟩ | hfind := find_cases path
  · rw [takesFile, he] at h
    contradiction
  have hslot : ∀ p, (d.walk (.folder (d.start path)) (parts path)).slot? = some p →
      meansFolder path = false → (∀ content, d.write path content = .ok (d.withFile p content)) →
      d.Slot path p := by
    intro p hplace hfile hwrite
    have hleads := leads_of_walk hplace
    refine ⟨hleads, hwrite, fun content => ?_⟩
    have hwalk : (d.withFile p content).walk (.folder ((d.withFile p content).start path))
        (parts path) = .file p content := hleads.walk_withFile content
    rw [hfind, hwalk]
    simp [hfile]
  rw [takesFile, hfind] at h
  cases hwalk : d.walk (.folder (d.start path)) (parts path) with
  | folder => simp [hwalk] at h
  | error => simp [hwalk] at h
  | file p old =>
      have hfile : meansFolder path = false := by
        cases hm : meansFolder path with
        | false => rfl
        | true => simp [hwalk, hm] at h
      exact ⟨p, hslot p (by rw [hwalk]; rfl) hfile fun content => by
        simp [write, hfind, hwalk, hfile, withFile]⟩
  | missing p =>
      have hfile : meansFolder path = false := by simpa [hwalk] using h
      exact ⟨p, hslot p (by rw [hwalk]; rfl) hfile fun content => by
        simp [write, hfind, hwalk, hfile, withFile]⟩

/-- A file can be written exactly at a path that takes one. -/
theorem write_ok_iff {d : Directory} {path content : String} :
    (∃ d', d.write path content = .ok d') ↔ d.takesFile path = true := by
  rw [write, takesFile]
  cases d.find path with
  | file => simp
  | folder => simp
  | error => simp
  | missing => cases meansFolder path <;> simp

/-! ## The working folder -/

/-- The working folder is a folder: no part of its path goes back, and no file is in
its place or above it. -/
structure WellFormed (d : Directory) : Prop where
  forth : ".." ∉ d.home
  free : ∀ f ∈ d.files, ¬f.1 <+: d.home

theorem WellFormed.entry_above {d : Directory} (hd : d.WellFormed) {q : List String}
    (hq : q <+: d.home) : d.entry q = .folder q := by
  have hnone : d.files.lookup q = none := by
    rw [List.lookup_eq_none_iff]
    intro f hf
    refine bne_iff_ne.mpr ?_
    rintro rfl
    exact hd.free f hf hq
  have hfolder : d.isFolder q = true := by
    simp [isFolder, hq]
  rw [entry, hnone, if_pos hfolder]

/-- A folder with files below it is well-formed. -/
theorem wellFormed_ofFiles {home : String} {files : List (String × String)}
    (hforth : ".." ∉ parts home) (hnamed : ∀ f ∈ files, parts f.1 ≠ []) :
    (ofFiles home files).WellFormed where
  forth := hforth
  free := by
    intro f hf hdown
    obtain ⟨f', hf', rfl⟩ := List.mem_map.mp hf
    have hlength : (parts home ++ parts f'.1).length ≤ (parts home).length := hdown.length_le
    rw [List.length_append] at hlength
    exact hnamed f' hf' (List.eq_nil_of_length_eq_zero (by omega))

/-- It stays so when a file is put at a place for one. -/
theorem WellFormed.withFile {d : Directory} (hd : d.WellFormed) {p : List String}
    (hp : (d.entry p).slot? = some p) (content : String) : (d.withFile p content).WellFormed where
  forth := hd.forth
  free := by
    intro f hf hdown
    obtain hf | hf := mem_put hf
    · exact hd.free f hf hdown
    · rw [hf] at hdown
      rw [hd.entry_above hdown] at hp
      contradiction

/-- Down the path of the working folder there is no place for a file. -/
theorem WellFormed.not_above {d : Directory} (hd : d.WellFormed) {p q parts : List String}
    (h : d.Leads p q parts) : ¬q ++ parts <+: d.home := by
  induction h with
  | back _ _ =>
      intro hdown
      exact hd.forth (hdown.subset (by simp))
  | into _ _ _ _ ih => simpa using ih
  | stop _ _ here slot =>
      intro hdown
      rw [← here] at hdown
      rw [hd.entry_above hdown] at slot
      contradiction

theorem getLast?_stepsFrom {base path : List String} (h : ¬path <+: base) :
    (stepsFrom base path).getLast? = path.getLast? := by
  induction base generalizing path with
  | nil => simp [stepsFrom]
  | cons b base ih =>
      cases path with
      | nil => simp at h
      | cons p path =>
          rw [stepsFrom]
          split
          case isFalse =>
              rw [List.getLast?_append, List.getLast?_cons]
              rfl
          case isTrue heq =>
              subst heq
              have hmore : ¬path <+: base := by simpa using h
              have hne : path ≠ [] := by
                rintro rfl
                exact hmore List.nil_prefix
              obtain ⟨x, path, rfl⟩ := List.exists_cons_of_ne_nil hne
              rw [ih hmore, List.getLast?_cons_cons]

/-- Seen from the working folder, the place of a file has the same name. -/
theorem WellFormed.getLast?_relative {d : Directory} (hd : d.WellFormed) {path : String}
    {p : List String} (h : d.Slot path p) :
    (d.relative path).getLast? = (parts path).getLast? := by
  rw [relative]
  split
  case isFalse => rfl
  case isTrue habsolute =>
      have hleads := h.leads
      rw [start, if_pos habsolute] at hleads
      exact getLast?_stepsFrom (hd.not_above hleads)

end TwoStep.Directory
