import AddressIntake.Json.Decoder
import Mathlib.Data.List.Forall2

namespace AddressIntake.Json

theorem nodes_eq_map (items : List Json) : nodes items = items.map node := by
  induction items with
  | nil => rfl
  | cons item items ih => rw [nodes, ih, List.map_cons]

/-- With names that differ, each name leads to its own value. -/
theorem lookup_entryNodes {entries : List (String × Json)} (hnames : (entries.map (·.1)).Nodup)
    {entry : String × Json} (hmem : entry ∈ entries) :
    (entryNodes entries).lookup (some entry.1) = some entry.2.node := by
  induction entries with
  | nil => cases hmem
  | cons first entries ih =>
    rw [List.map_cons, List.nodup_cons] at hnames
    rw [entryNodes]
    rcases List.mem_cons.1 hmem with rfl | hmem
    · exact List.lookup_cons_self
    · have hne : entry.1 ≠ first.1 := fun hsame =>
        hnames.1 (hsame ▸ List.mem_map_of_mem hmem)
      rw [List.lookup_cons, beq_eq_false_iff_ne.2 (fun hsame => hne (Option.some.inj hsame))]
      exact ih hnames.2 hmem

namespace Decoder

variable {α : Type}

@[simp]
theorem string_node (s : String) : string (Json.str s).node = .ok s := by
  rw [node, string]

@[simp]
theorem bool_node (b : Bool) : bool (Json.bool b).node = .ok b := by
  rw [node, bool]

@[simp]
theorem choice_node {ofTag? : String → Option α} {tag : String} {value : α}
    (htag : ofTag? tag = some value) : choice ofTag? (Json.str tag).node = .ok value := by
  rw [node, choice, htag, ofOption]

/-- A value that may be missing is read back if the value itself is, and is never written as
null. -/
theorem nullable_ofOption {read : Decoder α} {write : α → Json} {value : Option α}
    (hread : ∀ a ∈ value, read (write a).node = .ok a)
    (hnull : ∀ a ∈ value, (write a).node ≠ .null) :
    nullable read (Json.ofOption write value).node = .ok value := by
  cases value with
  | none => rw [Json.ofOption, node, nullable]
  | some a =>
    rw [Json.ofOption, nullable, hread a rfl]
    · rfl
    · exact hnull a rfl

/-- The elements of a list are read back if each of them is. -/
theorem list_ofList {read : Decoder α} {write : α → Json} {items : List α}
    (hread : ∀ a ∈ items, read (write a).node = .ok a) :
    list read (Json.ofList write items).node = .ok items := by
  have hitems : (nodes (items.map write)).mapM read = .ok items := by
    rw [nodes_eq_map, List.map_map]
    induction items with
    | nil => rfl
    | cons item items ih =>
      have hrest := ih fun a ha => hread a (List.mem_cons_of_mem item ha)
      rw [List.map_cons, List.mapM_cons, hrest, Function.comp_apply, hread item List.mem_cons_self]
      rfl
  rw [Json.ofList, node, list, hitems]
  rfl

/-- The entries of an object are read back if each of their values is. -/
theorem entries_node {read : Decoder α} {write : α → Json}
    (hread : ∀ a, read (write a).node = .ok a) (found : List (String × α)) :
    entries read (Json.obj (found.map fun entry => (entry.1, write entry.2))).node = .ok found := by
  have hfound (f : Option String × Node → Except Fault (String × α))
      (hf : ∀ key value, f (some key, value) = (read value).map fun a => (key, a)) :
      (entryNodes (found.map fun entry => (entry.1, write entry.2))).mapM f = .ok found := by
    induction found with
    | nil => rfl
    | cons entry found ih =>
      rw [List.map_cons, entryNodes, List.mapM_cons, ih, hf, hread]
      rfl
  rw [node, entries, hfound _ fun _ _ => rfl]
  rfl

end Decoder

namespace Record

variable {α β : Type}

/-- A record that finds a value among the entries of an object. Each of its members is an entry,
in the same order, and passes its check. -/
structure Fits (record : Record α) (entries : List (String × Json)) (value : α) : Prop where
  checks : List.Forall₂ (fun member entry => member.name = entry.1 ∧
    member.check entry.2.node = .ok ()) record.members entries
  build : ∀ found : String → Option Node, (∀ entry ∈ entries, found entry.1 = some entry.2.node) →
    record.build found = .ok value

theorem fits_pure (value : α) : (pure value : Record α).Fits [] value :=
  ⟨.nil, fun _ _ => rfl⟩

/-- Two parts of a record find their values one after the other. -/
theorem Fits.seq {function : Record (α → β)} {record : Record α}
    {first second : List (String × Json)} {f : α → β} {value : α} (hfirst : function.Fits first f)
    (hsecond : record.Fits second value) :
    (function <*> record).Fits (first ++ second) (f value) := by
  refine ⟨List.rel_append hfirst.checks hsecond.checks, fun found hfound => ?_⟩
  have hf := hfirst.build found fun entry hmem => hfound entry (List.mem_append_left second hmem)
  have hvalue := hsecond.build found fun entry hmem => hfound entry (List.mem_append_right first hmem)
  change (function.build found >>= fun g => record.build found >>= fun x => pure (g x)) = _
  rw [hf, hvalue]
  rfl

theorem Fits.map {record : Record α} {entries : List (String × Json)} {value : α}
    (hfits : record.Fits entries value) (f : α → β) : (f <$> record).Fits entries (f value) :=
  (fits_pure f).seq hfits

theorem checkOf_eq_ok {read : Decoder α} {node : Node} {value : α} (hread : read node = .ok value) :
    checkOf read node = .ok () := by
  rw [checkOf, hread]
  rfl

theorem fits_required {read : Decoder α} {json : Json} {value : α} (name : String)
    (hread : read json.node = .ok value) : (required name read).Fits [(name, json)] value := by
  refine ⟨.cons ⟨rfl, checkOf_eq_ok hread⟩ .nil, fun found hfound => ?_⟩
  have hname : found name = some json.node := hfound _ List.mem_cons_self
  simp only [required, hname]
  exact hread

theorem fits_optional {read : Decoder α} {json : Json} {value : Option α} (name : String)
    (hread : Decoder.nullable read json.node = .ok value) :
    (optional name read).Fits [(name, json)] value := by
  refine ⟨.cons ⟨rfl, checkOf_eq_ok hread⟩ .nil, fun found hfound => ?_⟩
  have hname : found name = some json.node := hfound _ List.mem_cons_self
  simp only [optional, hname]
  exact hread

theorem fits_withDefault {read : Decoder α} {json : Json} {value : α} (name : String) (default : α)
    (hread : read json.node = .ok value) :
    (withDefault name default read).Fits [(name, json)] value := by
  refine ⟨.cons ⟨rfl, checkOf_eq_ok hread⟩ .nil, fun found hfound => ?_⟩
  have hname : found name = some json.node := hfound _ List.mem_cons_self
  simp only [withDefault, hname]
  exact hread

/-- An optional text stands beside its name. -/
theorem fits_optional_string (name : String) (value : Option String) :
    (optional name Decoder.string).Fits [(name, Json.ofOption .str value)] value :=
  fits_optional name <| Decoder.nullable_ofOption (fun s _ => Decoder.string_node s) fun s _ hnull => by
    rw [node] at hnull
    cases hnull

/-- Where names differ, a member is the only one of its name. -/
theorem find?_name {members : List Member} (hnames : (members.map (·.name)).Nodup) {member : Member}
    (hmem : member ∈ members) : members.find? (·.name == member.name) = some member := by
  induction members with
  | nil => cases hmem
  | cons first members ih =>
    rw [List.map_cons, List.nodup_cons] at hnames
    rcases List.mem_cons.1 hmem with rfl | hmem
    · exact List.find?_cons_of_pos (beq_self_eq_true _)
    · have hne : first.name ≠ member.name := fun hsame =>
        hnames.1 (hsame ▸ List.mem_map_of_mem hmem)
      rw [List.find?_cons_of_neg (by simpa using hne)]
      exact ih hnames.2 hmem

/-- The entries of an object pass if each is that of a member and no name comes twice. -/
theorem checkEntries_entryNodes (passes : Node → Bool) {known members : List Member}
    {entries : List (String × Json)}
    (hchecks : List.Forall₂ (fun member entry => member.name = entry.1 ∧
      member.check entry.2.node = .ok ()) members entries)
    (hknown : ∀ member ∈ members, known.find? (·.name == member.name) = some member)
    (hnames : (members.map (·.name)).Nodup) (met : List String)
    (hmet : ∀ member ∈ members, member.name ∉ met) :
    checkEntries known passes met (entryNodes entries) = .ok () := by
  induction hchecks generalizing met with
  | nil => rfl
  | @cons member entry members entries hentry _ ih =>
    obtain ⟨hname, hcheck⟩ := hentry
    rw [List.map_cons, List.nodup_cons] at hnames
    have hfound := hknown member List.mem_cons_self
    have hnew := hmet member List.mem_cons_self
    have hrest := ih (fun other hmem => hknown other (List.mem_cons_of_mem _ hmem)) hnames.2
      (member.name :: met) fun other hmem hagain => by
        rcases List.mem_cons.1 hagain with hsame | hagain
        · exact hnames.1 (hsame ▸ List.mem_map_of_mem hmem)
        · exact hmet other (List.mem_cons_of_mem _ hmem) hagain
    rw [entryNodes, ← hname, checkEntries, hfound]
    simp only [List.contains_iff_mem, hnew, if_false, hcheck]
    exact hrest

variable {record : Record α} {entries : List (String × Json)} {value : α}

theorem Fits.map_name (hfits : record.Fits entries value) :
    record.members.map (·.name) = entries.map (·.1) :=
  List.forall₂_eq_eq_eq ▸ List.forall₂_map_left_iff.2
    (List.forall₂_map_right_iff.2 (hfits.checks.imp fun _ _ h => h.1))

/-- An object whose entries fit a record is read as the record. -/
theorem Fits.ofEntries_node (hfits : record.Fits entries value)
    (hnames : (entries.map (·.1)).Nodup) (passes : Node → Bool) :
    record.ofEntries passes (entryNodes entries) true = .ok value := by
  rw [← hfits.map_name] at hnames
  have hcheck := checkEntries_entryNodes passes hfits.checks
    (fun member hmem => find?_name hnames hmem) hnames [] fun _ _ hmet => by cases hmet
  rw [hfits.map_name] at hnames
  have hbuild := hfits.build (fun name => (entryNodes entries).lookup (some name))
    fun entry hmem => lookup_entryNodes hnames hmem
  rw [ofEntries, hcheck]
  exact hbuild

theorem Fits.openDecoder_node (hfits : record.Fits entries value)
    (hnames : (entries.map (·.1)).Nodup) : record.openDecoder (Json.obj entries).node = .ok value := by
  rw [node, openDecoder]
  exact hfits.ofEntries_node hnames _

theorem Fits.decoder_node (hfits : record.Fits entries value)
    (hnames : (entries.map (·.1)).Nodup) : record.decoder (Json.obj entries).node = .ok value := by
  rw [node, Record.decoder]
  exact hfits.ofEntries_node hnames _

end Record

end AddressIntake.Json
