import AddressIntake.Number.Unsigned
import AddressIntake.Proofs.Except
import AddressIntake.Proofs.Json.Decoder
import AddressIntake.Proofs.Json.Reading

namespace AddressIntake.Json

variable {α β : Type}

/-- Whatever is read has a property. -/
def Decoder.Yields (read : Decoder α) (P : α → Prop) : Prop :=
  ∀ node a, read node = .ok a → P a

/-- A way to read and a way to write values lose nothing: values that fit are read back, and only
such values are read. -/
structure IsLossless (read : Decoder α) (write : α → Json) (fits : α → Prop) : Prop where
  isPlain : ∀ a, fits a → (write a).IsPlain
  read_node : ∀ a, fits a → read (write a).node = .ok a
  yields : read.Yields fits

/-- Written values that fit are read back from their text, and so are values that were read from any
text. -/
def RoundTrips (read : Decoder α) (write : α → Json) (fits : α → Prop) : Prop :=
  ∀ layout : Layout, layout.IsSpaced → ∀ level : Nat,
    (∀ a, fits a → decode read (print layout level (write a)) = .ok a) ∧
    ∀ text a, decode read text = .ok a → decode read (print layout level (write a)) = .ok a

theorem IsLossless.roundTrips {read : Decoder α} {write : α → Json} {fits : α → Prop}
    (hlossless : IsLossless read write fits) : RoundTrips read write fits := by
  intro layout hlayout level
  have hwritten (a : α) (ha : fits a) : decode read (print layout level (write a)) = .ok a :=
    (decode_print read hlayout level (hlossless.isPlain a ha)).trans (hlossless.read_node a ha)
  refine ⟨hwritten, fun text a hread => hwritten a ?_⟩
  obtain ⟨value, hvalue, hended⟩ := exists_of_bind_eq_ok hread
  split at hended
  · cases hended
    exact hlossless.yields _ _ hvalue
  · cases hended

/-- Where every value is read back, all of them fit. -/
theorem isLossless_of_forall {read : Decoder α} {write : α → Json}
    (hread : ∀ a, read (write a).node = .ok a) (hplain : ∀ a, (write a).IsPlain) :
    IsLossless read write fun _ => True :=
  ⟨fun a _ => hplain a, fun a _ => hread a, fun _ _ _ => trivial⟩

theorem isLossless_string : IsLossless Decoder.string .str fun _ => True :=
  isLossless_of_forall Decoder.string_node fun s => by rw [IsPlain]; trivial

theorem isLossless_char :
    IsLossless Decoder.char (fun c => .str (String.ofList [c])) fun _ => True := by
  refine isLossless_of_forall (fun c => ?_) fun c => by rw [IsPlain]; trivial
  rw [Decoder.char, Decoder.filterMap, Decoder.string_node]
  simp [Except.bind, Decoder.ofOption]

/-- A number is written in one word. -/
def IsWordSized (n : Nat) : Prop :=
  n ≤ Number.maxWord64

theorem isLossless_unsigned :
    IsLossless (Decoder.unsigned Number.maxWord64) Json.ofNat IsWordSized := by
  refine ⟨fun n hn => ?_, fun n hn => ?_, fun node n hread => ?_⟩
  · rw [ofNat, IsPlain]
    unfold IsWordSized Number.maxWord64 at hn
    constructor <;> simp only [Int.ofNat_eq_natCast] <;> omega
  · rw [ofNat, node, Decoder.unsigned]
    exact if_pos hn
  · unfold Decoder.unsigned at hread
    split at hread
    · split at hread
      · next hle =>
        cases hread
        exact hle
      · cases hread
    · cases hread

theorem isLossless_list {read : Decoder α} {write : α → Json} {fits : α → Prop}
    (hlossless : IsLossless read write fits) :
    IsLossless (Decoder.list read) (Json.ofList write) fun items => ∀ a ∈ items, fits a := by
  refine ⟨fun items hitems => isPlain_ofList fun a ha => hlossless.isPlain a (hitems a ha),
    fun items hitems => Decoder.list_ofList fun a ha => hlossless.read_node a (hitems a ha),
    fun node items hread => ?_⟩
  unfold Decoder.list at hread
  split at hread
  · obtain ⟨values, hvalues, hclosed⟩ := exists_of_bind_eq_ok hread
    split at hclosed
    · cases hclosed
      intro a ha
      obtain ⟨item, _, hitem⟩ := exists_of_mem_mapM hvalues ha
      exact hlossless.yields item a hitem
    · cases hclosed
  · cases hread

theorem isLossless_nullable {read : Decoder α} {write : α → Json} {fits : α → Prop}
    (hlossless : IsLossless read write fits) (hnull : ∀ a, (write a).node ≠ .null) :
    IsLossless (Decoder.nullable read) (Json.ofOption write) fun value => ∀ a ∈ value, fits a := by
  refine ⟨fun value hvalue => isPlain_ofOption fun a ha => hlossless.isPlain a (hvalue a ha),
    fun value hvalue => Decoder.nullable_ofOption
      (fun a ha => hlossless.read_node a (hvalue a ha)) fun a _ => hnull a,
    fun node value hread => ?_⟩
  unfold Decoder.nullable at hread
  split at hread
  · cases hread
    rintro a ⟨⟩
  · cases hfound : read node with
    | error fault =>
      rw [hfound] at hread
      cases hread
    | ok found =>
      rw [hfound] at hread
      cases hread
      rintro a ⟨⟩
      exact hlossless.yields _ _ hfound

namespace Record

/-- Whatever a record is put together to has a property. -/
def Yields (record : Record α) (P : α → Prop) : Prop :=
  ∀ found a, record.build found = .ok a → P a

theorem yields_trivial (record : Record α) : record.Yields fun _ => True :=
  fun _ _ _ => trivial

theorem yields_pure {P : α → Prop} {a : α} (ha : P a) : (pure a : Record α).Yields P := by
  rintro found _ ⟨⟩
  exact ha

theorem Yields.seq {function : Record (α → β)} {record : Record α} {P : α → Prop} {Q : β → Prop}
    (hfunction : function.Yields fun f => ∀ a, P a → Q (f a)) (hrecord : record.Yields P) :
    (function <*> record).Yields Q := by
  intro found b hbuild
  obtain ⟨f, hf, hbuild⟩ := exists_of_bind_eq_ok hbuild
  obtain ⟨a, ha, hbuild⟩ := exists_of_bind_eq_ok hbuild
  cases hbuild
  exact hfunction found f hf a (hrecord found a ha)

theorem Yields.map {record : Record α} {P : α → Prop} {Q : β → Prop} {f : α → β}
    (hrecord : record.Yields P) (hf : ∀ a, P a → Q (f a)) : (f <$> record).Yields Q :=
  (yields_pure hf).seq hrecord

theorem yields_required {read : Decoder α} {P : α → Prop} (name : String) (hread : read.Yields P) :
    (required name read).Yields P := by
  intro found a hbuild
  simp only [required] at hbuild
  split at hbuild
  · exact hread _ a hbuild
  · cases hbuild

theorem yields_withDefault {read : Decoder α} {P : α → Prop} {default : α} (name : String)
    (hdefault : P default) (hread : read.Yields P) : (withDefault name default read).Yields P := by
  intro found a hbuild
  simp only [withDefault] at hbuild
  split at hbuild
  · exact hread _ a hbuild
  · cases hbuild
    exact hdefault

theorem Yields.decoder {record : Record α} {P : α → Prop} (hrecord : record.Yields P) :
    record.decoder.Yields P := by
  intro node a hread
  unfold Record.decoder at hread
  split at hread
  · obtain ⟨_, _, hclosed⟩ := exists_of_bind_eq_ok hread
    split at hclosed
    · exact hrecord _ a hclosed
    · cases hclosed
  · obtain ⟨_, _, hbuild⟩ := exists_of_bind_eq_ok hread
    exact hrecord _ a hbuild
  · cases hread

end Record

end AddressIntake.Json
