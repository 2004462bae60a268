import AddressIntake.Http.Payload
import AddressIntake.Proofs.Json.Lossless
import AddressIntake.Proofs.Policy

namespace AddressIntake

open Json Record

theorem Row.isLossless : IsLossless Row.decoder Row.toJson fun _ => True :=
  isLossless_of_forall (FieldMap.decoder_toJson Decoder.string_node)
    (FieldMap.isPlain_toJson fun s => by rw [IsPlain]; trivial)

namespace RowError

/-- The number of the row fits in a word. -/
def Fits (e : RowError) : Prop :=
  IsWordSized e.row

theorem isLossless : IsLossless decoder toJson Fits := by
  refine ⟨fun e he => ?_, fun e he => ?_, ?_⟩
  · simp only [toJson, IsPlain, AllEntriesPlain, isLossless_unsigned.isPlain e.row he, and_self]
  · have hfits := (((fits_required "row" (isLossless_unsigned.read_node e.row he)).map
      RowError.mk).seq
      (fits_required "field" (Decoder.string_node e.field))).seq
      (fits_required "message" (Decoder.string_node e.message))
    have hnames : ["row", "field", "message"].Nodup := by decide
    exact hfits.decoder_node hnames
  · refine Yields.decoder (Yields.seq (Yields.seq (Yields.map
      (yields_required "row" isLossless_unsigned.yields) ?_) (yields_trivial _)) (yields_trivial _))
    intro row hrow field _ message _
    exact hrow

end RowError

namespace Source

theorem isLossless : IsLossless decoder toJson fun _ => True := by
  have hseparator := isLossless_nullable isLossless_char fun c hnull => by
    rw [node] at hnull
    cases hnull
  have hheaders := isLossless_list isLossless_string
  refine isLossless_of_forall (fun source => ?_) fun source => ?_
  · have hfits := (((((fits_required "fileKind" (Decoder.string_node source.fileKind)).map
      Source.mk).seq
      (fits_optional_string "encoding" source.encoding)).seq
      (fits_optional "delimiter" (hseparator.read_node source.separator fun _ _ => trivial))).seq
      (fits_required "headers" (hheaders.read_node source.headers fun _ _ => trivial))).seq
      (fits_required "unrecognizedHeaders"
        (hheaders.read_node source.unrecognized fun _ _ => trivial))
    have hnames : ["fileKind", "encoding", "delimiter", "headers", "unrecognizedHeaders"].Nodup := by
      decide
    exact hfits.decoder_node hnames
  · simp only [toJson, IsPlain, AllEntriesPlain, isPlain_ofOption_str,
      hseparator.isPlain source.separator fun _ _ => trivial,
      hheaders.isPlain source.headers fun _ _ => trivial,
      hheaders.isPlain source.unrecognized fun _ _ => trivial, and_self]

end Source

namespace ValidationResult

/-- All numbers of a result fit in words. -/
structure Fits (result : ValidationResult) : Prop where
  totalRows : IsWordSized result.totalRows
  validRows : IsWordSized result.validRows
  errorRows : IsWordSized result.errorRows
  errors : ∀ e ∈ result.errors, e.Fits

theorem isLossless : IsLossless decoder toJson Fits := by
  have herrors := isLossless_list RowError.isLossless
  have hrows := isLossless_list Row.isLossless
  refine ⟨fun result hresult => ?_, fun result hresult => ?_, ?_⟩
  · simp only [toJson, IsPlain, AllEntriesPlain, isLossless_unsigned.isPlain _ hresult.totalRows,
      isLossless_unsigned.isPlain _ hresult.validRows,
      isLossless_unsigned.isPlain _ hresult.errorRows, herrors.isPlain _ hresult.errors,
      hrows.isPlain result.rows fun _ _ => trivial, Source.isLossless.isPlain result.source trivial,
      and_self]
  · have hfits := ((((((fits_required "totalRows"
      (isLossless_unsigned.read_node _ hresult.totalRows)).map ValidationResult.mk).seq
      (fits_required "validRows" (isLossless_unsigned.read_node _ hresult.validRows))).seq
      (fits_required "errorRows" (isLossless_unsigned.read_node _ hresult.errorRows))).seq
      (fits_required "errors" (herrors.read_node _ hresult.errors))).seq
      (fits_required "parsedRows" (hrows.read_node result.rows fun _ _ => trivial))).seq
      (fits_withDefault "source" .none (Source.isLossless.read_node result.source trivial))
    have hnames : ["totalRows", "validRows", "errorRows", "errors", "parsedRows", "source"].Nodup := by
      decide
    exact hfits.decoder_node hnames
  · refine Yields.decoder (Yields.seq (Yields.seq (Yields.seq (Yields.seq (Yields.seq (Yields.map
      (yields_required "totalRows" isLossless_unsigned.yields) ?_)
      (yields_required "validRows" isLossless_unsigned.yields))
      (yields_required "errorRows" isLossless_unsigned.yields))
      (yields_required "errors" herrors.yields)) (yields_trivial _)) (yields_trivial _))
    intro total htotal valid hvalid invalid hinvalid errors herrors rows _ source _
    exact ⟨htotal, hvalid, hinvalid, herrors⟩

end ValidationResult

namespace ChunkReport

/-- All numbers of a report fit in words. -/
structure Fits (report : ChunkReport) : Prop where
  index : IsWordSized report.index
  firstRow : IsWordSized report.firstRow
  lastRow : IsWordSized report.lastRow

theorem isLossless : IsLossless decoder toJson Fits := by
  refine ⟨fun report hreport => ?_, fun report hreport => ?_, ?_⟩
  · simp only [toJson, IsPlain, AllEntriesPlain, isLossless_unsigned.isPlain _ hreport.index,
      isLossless_unsigned.isPlain _ hreport.firstRow, isLossless_unsigned.isPlain _ hreport.lastRow,
      and_self]
  · have hstate : ChunkState.decoder (Json.str report.state.tag).node = .ok report.state :=
      Decoder.choice_node (by cases report.state <;> rfl)
    have hfits := ((((fits_required "index" (isLossless_unsigned.read_node _ hreport.index)).map
      ChunkReport.mk).seq
      (fits_required "firstRow" (isLossless_unsigned.read_node _ hreport.firstRow))).seq
      (fits_required "lastRow" (isLossless_unsigned.read_node _ hreport.lastRow))).seq
      (fits_required "state" hstate)
    have hnames : ["index", "firstRow", "lastRow", "state"].Nodup := by decide
    exact hfits.decoder_node hnames
  · refine Yields.decoder (Yields.seq (Yields.seq (Yields.seq (Yields.map
      (yields_required "index" isLossless_unsigned.yields) ?_)
      (yields_required "firstRow" isLossless_unsigned.yields))
      (yields_required "lastRow" isLossless_unsigned.yields)) (yields_trivial _))
    intro index hindex firstRow hfirst lastRow hlast state _
    exact ⟨hindex, hfirst, hlast⟩

end ChunkReport

namespace ImportResult

/-- All numbers of a result fit in words. -/
structure Fits (result : ImportResult) : Prop where
  totalRows : IsWordSized result.totalRows
  imported : IsWordSized result.imported
  failed : IsWordSized result.failed
  errors : ∀ e ∈ result.errors, e.Fits
  chunks : ∀ report ∈ result.chunks, report.Fits

theorem isLossless : IsLossless decoder toJson Fits := by
  have herrors := isLossless_list RowError.isLossless
  have hchunks := isLossless_list ChunkReport.isLossless
  refine ⟨fun result hresult => ?_, fun result hresult => ?_, ?_⟩
  · simp only [toJson, IsPlain, AllEntriesPlain, isLossless_unsigned.isPlain _ hresult.totalRows,
      isLossless_unsigned.isPlain _ hresult.imported, isLossless_unsigned.isPlain _ hresult.failed,
      herrors.isPlain _ hresult.errors, hchunks.isPlain _ hresult.chunks, and_self]
  · have hfits := ((((((fits_required "totalRows"
      (isLossless_unsigned.read_node _ hresult.totalRows)).map ImportResult.mk).seq
      (fits_required "imported" (isLossless_unsigned.read_node _ hresult.imported))).seq
      (fits_required "failed" (isLossless_unsigned.read_node _ hresult.failed))).seq
      (fits_required "errors" (herrors.read_node _ hresult.errors))).seq
      (fits_required "rolledBack" (Decoder.bool_node result.rolledBack))).seq
      (fits_withDefault "chunks" [] (hchunks.read_node _ hresult.chunks))
    have hnames : ["totalRows", "imported", "failed", "errors", "rolledBack", "chunks"].Nodup := by
      decide
    exact hfits.decoder_node hnames
  · refine Yields.decoder (Yields.seq (Yields.seq (Yields.seq (Yields.seq (Yields.seq (Yields.map
      (yields_required "totalRows" isLossless_unsigned.yields) ?_)
      (yields_required "imported" isLossless_unsigned.yields))
      (yields_required "failed" isLossless_unsigned.yields))
      (yields_required "errors" herrors.yields)) (yields_trivial _))
      (yields_withDefault "chunks" (List.forall_mem_nil _) hchunks.yields))
    intro total htotal imported himported failed hfailed errors herrors rolledBack _ chunks hchunks
    exact ⟨htotal, himported, hfailed, herrors, hchunks⟩

end ImportResult

namespace Http.CommitRequest

/-- The chunk size of a request fits in a word. -/
def Fits (request : CommitRequest) : Prop :=
  ∀ size ∈ request.chunkSize, IsWordSized size

theorem isLossless : IsLossless decoder toJson Fits := by
  have hrows := isLossless_list Row.isLossless
  have hsize := isLossless_nullable isLossless_unsigned fun n hnull => by
    rw [ofNat, node] at hnull
    cases hnull
  refine ⟨fun request hrequest => ?_, fun request hrequest => ?_, ?_⟩
  · simp only [toJson, IsPlain, AllEntriesPlain, hrows.isPlain request.rows fun _ _ => trivial,
      hsize.isPlain _ hrequest, and_self]
  · have hfits := ((fits_required "rows" (hrows.read_node request.rows fun _ _ => trivial)).map
      CommitRequest.mk).seq
      (fits_withDefault "chunkSize" none (hsize.read_node _ hrequest))
    have hnames : ["rows", "chunkSize"].Nodup := by decide
    exact hfits.decoder_node hnames
  · have hnone : ∀ size ∈ (none : Option Nat), IsWordSized size := by
      rintro size ⟨⟩
    refine Yields.decoder (Yields.seq (Yields.map (yields_trivial _) ?_)
      (yields_withDefault "chunkSize" hnone hsize.yields))
    intro rows _ size hsize
    exact hsize

end Http.CommitRequest

/-- Whatever is stored or sent is read back from its text, if its numbers fit in words, as those of
every value do that was read from a text. So nothing is altered by reading a text and writing it
again, with whatever further entries, missing parts and spellings of identities and moments it
came. -/
theorem documents_round_trip :
    RoundTrips Address.decoder Address.toJson (fun _ => True) ∧
    RoundTrips NewAddress.decoder NewAddress.toJson (fun _ => True) ∧
    RoundTrips Policy.decoder Policy.toJson (fun _ => True) ∧
    RoundTrips Row.decoder Row.toJson (fun _ => True) ∧
    RoundTrips RowError.decoder RowError.toJson RowError.Fits ∧
    RoundTrips ValidationResult.decoder ValidationResult.toJson ValidationResult.Fits ∧
    RoundTrips ImportResult.decoder ImportResult.toJson ImportResult.Fits ∧
    RoundTrips Http.CommitRequest.decoder Http.CommitRequest.toJson Http.CommitRequest.Fits :=
  ⟨(isLossless_of_forall Address.decoder_toJson Address.isPlain_toJson).roundTrips,
    (isLossless_of_forall NewAddress.decoder_toJson NewAddress.isPlain_toJson).roundTrips,
    (isLossless_of_forall Policy.decoder_toJson Policy.isPlain_toJson).roundTrips,
    Row.isLossless.roundTrips, RowError.isLossless.roundTrips, ValidationResult.isLossless.roundTrips,
    ImportResult.isLossless.roundTrips, Http.CommitRequest.isLossless.roundTrips⟩

end AddressIntake
