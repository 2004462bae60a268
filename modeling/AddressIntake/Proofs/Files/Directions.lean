import AddressIntake.Files.Directions

namespace AddressIntake

/-- A slash at the end adds no step, and none at the front unless there is nothing else. -/
theorem Directions.split_append_slash {folder : String} (hne : folder.toList ≠ []) :
    (split (folder ++ "/")).rooted = (split folder).rooted ∧
      (split (folder ++ "/")).steps = (split folder).steps := by
  have hsplit : (folder.toList ++ ['/']).splitOnP (· == '/') =
      folder.toList.splitOnP (· == '/') ++ [[]] :=
    List.splitOnP_append_cons folder.toList [] (by decide)
  have htext : (folder ++ "/").toList = folder.toList ++ ['/'] := String.toList_append
  constructor
  · obtain ⟨c, cs, hcs⟩ := List.exists_cons_of_ne_nil hne
    rw [split, split, htext, hcs, List.cons_append, List.head?_cons, List.head?_cons]
  · simp only [split, htext, hsplit, List.filter_append]
    simp

/-- A name follows a text that depends on the folder alone, and that ends with a slash unless it is
empty. It gives the steps of the folder. -/
theorem exists_joinPath_eq_append (folder : String) :
    ∃ lead : String, (lead = "" ∨ ∃ outer, lead.toList = outer ++ ['/']) ∧
      ((Directions.split lead).rooted = (Directions.split folder).rooted ∧
        (Directions.split lead).steps = (Directions.split folder).steps) ∧
      ∀ name : String, name.toList.head? ≠ some '/' → joinPath folder name = lead ++ name := by
  by_cases hempty : folder.isEmpty = true
  · obtain rfl := String.isEmpty_iff.1 hempty
    exact ⟨"", .inl rfl, ⟨rfl, rfl⟩, fun name hname => by simp [joinPath]⟩
  · by_cases hslash : folder.toList.getLast? = some '/'
    · obtain ⟨outer, houter⟩ := List.getLast?_eq_some_iff.1 hslash
      exact ⟨folder, .inr ⟨outer, houter⟩, ⟨rfl, rfl⟩,
        fun name hname => by simp [joinPath, hempty, hslash, hname]⟩
    · have hne : folder.toList ≠ [] :=
        fun hnil => hempty (String.isEmpty_iff.2 (String.toList_eq_nil_iff.1 hnil))
      exact ⟨folder ++ "/", .inr ⟨folder.toList, by simp⟩, Directions.split_append_slash hne,
        fun name hname => by simp [joinPath, hempty, hslash, hname]⟩

theorem joinPath_append (folder : String) {name : String} (hname : name.toList.head? ≠ some '/')
    (hne : name ≠ "") (suffix : String) :
    joinPath folder name ++ suffix = joinPath folder (name ++ suffix) := by
  obtain ⟨lead, _, _, hlead⟩ := exists_joinPath_eq_append folder
  have hlonger : (name ++ suffix).toList.head? ≠ some '/' := by
    obtain ⟨c, cs, hcs⟩ := List.exists_cons_of_ne_nil (fun h => hne (String.toList_eq_nil_iff.1 h))
    rw [hcs] at hname
    rwa [String.toList_append, hcs]
  rw [hlead name hname, hlead _ hlonger, String.append_assoc]

namespace Directions

/-- A text that can name a file in a folder: it is no step of its own kind, and holds no slash. -/
def IsName (name : String) : Prop :=
  name ≠ "" ∧ name ≠ here ∧ name ≠ around ∧ '/' ∉ name.toList

instance (name : String) : Decidable (IsName name) :=
  inferInstanceAs (Decidable (_ ∧ _))

theorem IsName.head?_ne {name : String} (hname : IsName name) : name.toList.head? ≠ some '/' :=
  fun hhead => hname.2.2.2 (List.mem_of_head? hhead)

theorem IsName.toList_ne_nil {name : String} (hname : IsName name) : name.toList ≠ [] :=
  fun hnil => hname.1 (String.toList_eq_nil_iff.1 hnil)

/-- The last step is the name after the lead. -/
theorem split_append {lead name : String} (hlead : lead = "" ∨ ∃ outer, lead.toList = outer ++ ['/'])
    (hname : IsName name) :
    split (lead ++ name) = ⟨lead.toList.head? == some '/', (split lead).steps ++ [name], false⟩ := by
  have hslash : ∀ c ∈ name.toList, (c == '/') = false := by
    intro c hmem
    exact beq_eq_false_iff_ne.2 fun hc => hname.2.2.2 (hc ▸ hmem)
  have hlast : (name.toList.getLast? == some '/') = false :=
    beq_eq_false_iff_ne.2 fun hlast => hname.2.2.2 (List.mem_of_getLast? hlast)
  have hhead : (name.toList.head? == some '/') = false := beq_eq_false_iff_ne.2 hname.head?_ne
  have hsteps : ((name.toList.splitOnP (· == '/')).filter (!·.isEmpty)).map String.ofList =
      [name] := by
    rw [List.splitOnP_eq_singleton hslash, List.filter_cons_of_pos (by simp [hname.toList_ne_nil])]
    simp
  rcases hlead with rfl | ⟨outer, houter⟩
  · simp only [split, String.empty_append, hsteps, hhead, hlast, String.toList_empty]
    rfl
  · have hsplit : ((outer ++ ['/']).splitOnP (· == '/')) =
        outer.splitOnP (· == '/') ++ [[]] := List.splitOnP_append_cons outer [] (by decide)
    have hwhole : (outer ++ '/' :: name.toList).splitOnP (· == '/') =
        outer.splitOnP (· == '/') ++ name.toList.splitOnP (· == '/') :=
      List.splitOnP_append_cons outer name.toList (by decide)
    have hhead : (outer ++ '/' :: name.toList).head? = (outer ++ ['/']).head? := by
      cases outer <;> rfl
    have hend : (outer ++ '/' :: name.toList).getLast? = name.toList.getLast? := by
      obtain ⟨c, cs, hcs⟩ := List.exists_cons_of_ne_nil hname.toList_ne_nil
      rw [hcs, List.getLast?_append, List.getLast?_cons_cons, List.getLast?_cons, Option.some_or]
    simp only [split, String.toList_append, houter, List.append_assoc, List.singleton_append, hsplit,
      hwhole, hhead, hend, hlast, List.filter_append, List.map_append, hsteps]
    simp

theorem eq_split_of_ofText {s : String} {directions : Directions}
    (hdirections : ofText s = .ok directions) : directions = split s := by
  rw [ofText] at hdirections
  split at hdirections
  · cases hdirections
  · split at hdirections
    · cases hdirections
    · split at hdirections
      · cases hdirections
      · exact (Except.ok.inj hdirections).symm

/-- The directions to names in a folder lead through the steps of the folder to the name. -/
theorem ofText_joinPath (folder : String) {name : String} (hname : IsName name) :
    ofText (joinPath folder name) =
        .ok ⟨(split folder).rooted, (split folder).steps ++ [name], false⟩ ∨
      ∃ e, ofText (joinPath folder name) = .error e := by
  obtain ⟨lead, hlead, ⟨hrooted, hsteps⟩, hjoin⟩ := exists_joinPath_eq_append folder
  rw [hjoin name hname.head?_ne, ofText]
  split
  · exact .inr ⟨_, rfl⟩
  · split
    · exact .inr ⟨_, rfl⟩
    · split
      · exact .inr ⟨_, rfl⟩
      · have hsplit := split_append hlead hname
        rw [hsteps] at hsplit
        rw [hsplit, ← hrooted]
        exact .inl rfl

end Directions

end AddressIntake
