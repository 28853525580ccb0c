import TableSource.Http.Service
import TableSource.Proofs.Filter.Requests
import TableSource.Proofs.Http.Gate
import TableSource.Proofs.Raw.JsonRoundTrip
import TableSource.Proofs.Store.Instances

/-!
# Streamed instances

The body of a streamed answer is assembled by hand from the texts of its parts.  It is one JSON
document all the same: an object with the descriptions of the projected features and with the
instances, in the order of the cursor.

What was sent until a cursor failed lacks the end of the document, and nothing can read it as a
whole.  A cursor that fails at once is reported by the status instead.
-/

namespace TableSource

/-! ## Values of the document -/

namespace Raw

variable {depth : ℕ} {value : Raw}

theorem Readable.jsonWithin
    (readable : Readable depth value) :
    JsonWithin depth value := by
  induction readable with
  | null =>
      exact .null
  | bool value =>
      exact .bool value
  | int short =>
      exact .int short
  | float value =>
      exact .float value
  | text value =>
      exact .text value
  | list each induction =>
      exact .list induction
  | record distinct each induction =>
      refine .mapping ?_ ?_
      · intro entry member
        rcases List.mem_map.mp member with ⟨field, -, rfl⟩
        exact ⟨field.1, rfl⟩
      · intro entry member
        rcases List.mem_map.mp member with ⟨field, present, rfl⟩
        exact induction field present

end Raw

theorem Feature.readable_describe
    {feature : Feature} (short : Numeral.isOverlong feature.index = false) (depth : ℕ) :
    Raw.Readable (depth + 1) feature.describe := by
  refine .record (show ["index", "name", "type"].Nodup by decide) ?_
  simp only [List.forall_mem_cons]
  exact ⟨.int short, .text _, .text _, by simp⟩

theorem Cell.readable_wire (cell : Cell) (depth : ℕ) :
    Raw.Readable depth cell.wire := by
  cases cell with
  | number value =>
      exact .float _
  | truth value =>
      exact .bool value
  | instant value =>
      exact .text _
  | text value =>
      exact .text value

theorem Row.readable_wire (row : Row) (depth : ℕ) :
    Raw.Readable (depth + 1) (.list row.wire) := by
  refine .list fun item member => ?_
  rcases List.mem_map.mp member with ⟨cell, -, rfl⟩
  exact cell.readable_wire depth

/-- An index below a bound has few digits.  The definition is opened without its equation, which
would count the digits out. -/
theorem Numeral.isOverlong_of_lt
    {index : ℤ} {bound : ℕ} (first : 0 ≤ index) (inside : index < bound)
    (few : bound ≤ Nat.pow 10 maxDigits) :
    isOverlong index = false := by
  delta isOverlong
  apply decide_eq_false
  omega

namespace Http

open Raw Json

/-- The document that a complete stream sends. -/
def documentOf (features : List Feature) (rows : List Row) : Raw :=
  .record [("features", .list (features.map Feature.describe)),
    ("instances", .list (rows.map fun row => .list row.wire))]

/-! ## Texts of the document -/

/-- A streamed body without its end. -/
def sentText (described : List Char) (texts : List (List Char)) : List Char :=
  '\x7b' :: (memberText true [] "features" described ++
    ',' :: memberText true [] "instances" ('[' :: [','].intercalate texts))

/-- The end makes one object of a body. -/
theorem sentText_ended (described : List Char) (texts : List (List Char)) :
    sentText described texts ++ streamEnd.toList =
      objectText [] [memberText true [] "features" described,
        memberText true [] "instances" (arrayText [] texts)] := by
  have ending : streamEnd.toList = [']', '\x7d'] := rfl
  simp [sentText, ending, objectText, arrayText, memberText]

/-- The texts that the parts of a body have, for features whose indexes can be written. -/
structure Parts (features : List Feature) (rows : List Row) (described : String)
    (texts : List String) : Prop where
  short : ∀ feature ∈ features, Numeral.isOverlong feature.index = false
  describes : (Raw.list (features.map Feature.describe)).json .spaced = .ok described
  instances : List.Forall₂ (fun row text => streamedRow row = .ok text) rows texts

section Texts

variable {features : List Feature} {rows : List Row} {described : String} {texts : List String}

theorem readable_descriptions
    (short : ∀ feature ∈ features, Numeral.isOverlong feature.index = false) (depth : ℕ) :
    Raw.Readable (depth + 2) (.list (features.map Feature.describe)) := by
  refine .list fun item member => ?_
  rcases List.mem_map.mp member with ⟨feature, present, rfl⟩
  exact Feature.readable_describe (short feature present) depth

theorem exists_parts
    (short : ∀ feature ∈ features, Numeral.isOverlong feature.index = false) (rows : List Row) :
    ∃ described texts, Parts features rows described texts := by
  rcases (readable_descriptions short 898).jsonWithin.exists_json with ⟨described, describes⟩
  have each : ∃ texts, rows.mapM streamedRow = .ok texts :=
    exists_ok_of_mapM fun row _ => (Row.readable_wire row _).jsonWithin.exists_json
  rcases each with ⟨texts, written⟩
  exact ⟨described, texts, short, describes, mapM_eq_ok_iff.mp written⟩

/-- A body is put together from the texts of its parts. -/
theorem Parts.exists_streamBody
    (parts : Parts features rows described texts) (complete : Bool) :
    ∃ body, streamBody features rows complete = .ok body ∧
      body.toList = sentText described.toList (texts.map String.toList) ++
        (if complete then streamEnd else "").toList := by
  have written := mapM_eq_ok_iff.mpr parts.instances
  have made : streamBody features rows complete =
      .ok ("\x7b\"features\":" ++ described ++ ",\"instances\":[" ++ String.intercalate "," texts ++
        (if complete then streamEnd else "")) := by
    rw [streamBody, streamHead, parts.describes, streamedRows, written]
    rfl
  refine ⟨_, made, ?_⟩
  have lead : "\x7b\"features\":".toList = '\x7b' :: memberText true [] "features" [] := by
    decide
  have between : ",\"instances\":[".toList = ',' :: memberText true [] "instances" ['['] := by
    decide
  simp [sentText, memberText, String.toList_intercalate, lead, between]

variable {bound depth : ℕ}

theorem Parts.writes_describes
    (parts : Parts features rows described texts)
    (enough : described.toList.length ≤ bound) :
    Writes (value? bound (depth + 2)) described.toList
      (.list (features.map Feature.describe)) :=
  writes_json separates_spaced (readable_descriptions parts.short depth) parts.describes enough

/-- The texts of the instances are those of a style. -/
theorem Parts.writtenAs
    (parts : Parts features rows described texts) :
    List.Forall₂ (WrittenAs .spaced Raw.maxNesting) (texts.map String.toList)
      (rows.map fun row => Raw.list row.wire) := by
  rw [List.forall₂_map_left_iff, List.forall₂_map_right_iff]
  exact parts.instances.flip.imp fun text row written => ⟨text, rfl, written⟩

theorem writes_instance
    (rows : List Row) (text : List Char) :
    ∀ item ∈ rows.map fun row => Raw.list row.wire,
      WrittenAs .spaced Raw.maxNesting text item → text.length ≤ bound →
        Writes (value? bound (depth + 1)) text item := by
  rintro item member ⟨written, rfl, made⟩ enough
  rcases List.mem_map.mp member with ⟨row, -, rfl⟩
  exact writes_json separates_spaced (row.readable_wire depth) made enough

/-- A body with its end is read as the document. -/
theorem Parts.writes_ended
    (parts : Parts features rows described texts)
    (enough : (sentText described.toList (texts.map String.toList) ++ streamEnd.toList).length ≤
      bound) :
    Writes (value? bound (depth + 3))
      (sentText described.toList (texts.map String.toList) ++ streamEnd.toList)
      (documentOf features rows) := by
  rw [sentText_ended] at enough ⊢
  have each : List.Forall₂
      (fun member (field : String × Raw) =>
        ∃ text, member = memberText true [] field.1 text ∧
          (text.length ≤ bound → Writes (value? bound (depth + 2)) text field.2))
      [memberText true [] "features" described.toList,
        memberText true [] "instances" (arrayText [] (texts.map String.toList))]
      [("features", .list (features.map Feature.describe)),
        ("instances", .list (rows.map fun row => .list row.wire))] := by
    refine .cons ⟨_, rfl, parts.writes_describes⟩ (.cons ⟨_, rfl, fun fits => ?_⟩ .nil)
    exact writes_array_within separates_compact.commaBlank _ parts.writtenAs
      (writes_instance rows) fits
  exact writes_object_within separates_compact.commaBlank separates_compact.colonBlank
    (fun text value => text.length ≤ bound → Writes (value? bound (depth + 2)) text value) each
    (fun text field _ reads fits => reads fits)
    (show ["features", "instances"].Nodup by decide) enough

/-- A body without its end is not read, once it has an instance: the array of the instances stays
open. -/
theorem Parts.value?_sent
    (parts : Parts features rows described texts) (begun : rows ≠ [])
    (enough : (sentText described.toList (texts.map String.toList)).length ≤ bound) :
    value? bound (depth + 3) (sentText described.toList (texts.map String.toList)) = none := by
  have fits : described.toList.length ≤ bound ∧
      ([','].intercalate (texts.map String.toList)).length ≤ bound := by
    simp only [sentText, memberText, List.length_cons, List.length_append] at enough
    omega
  have each : List.Forall₂ (Writes (value? bound (depth + 1))) (texts.map String.toList)
      (rows.map fun row => Raw.list row.wire) :=
    forall₂_imp_of_mem parts.writtenAs fun text member item itemMember made =>
      writes_instance rows text item itemMember made
        ((length_le_intercalate _ member).trans fits.2)
  have filled : texts.map String.toList ≠ [] := by
    rw [← List.length_pos_iff, each.length_eq, List.length_map]
    exact List.length_pos_iff.mpr begun
  have unread : value? bound (depth + 2)
      (skip ('[' :: [','].intercalate (texts.map String.toList))) = none :=
    value?_array_cut separates_compact.commaBlank each filled
  have describes : Writes (value? bound (depth + 2)) described.toList _ :=
    parts.writes_describes fits.1
  cases bound with
  | zero =>
      simp [sentText] at enough
  | succ bound =>
      have opening := @members?_cons _ true [] [] _ _ separates_compact.commaBlank
        separates_compact.colonBlank describes bound "features"
      have closing := @members?_unread _ true [] [] _ separates_compact.commaBlank
        separates_compact.colonBlank unread bound "instances"
      simp only [List.nil_append] at opening closing
      rw [sentText, value?_object, opening, closing]
      rfl

end Texts

/-! ## Reading and sending -/

/-- Instances that are kept are all instances of the cursor, the last one first. -/
theorem consume_keeping
    {features : List Feature} {records : List Record} {rows : List Row}
    (each : List.Forall₂ (Store.ReadAs features) records rows)
    (kept : List Row) (fault : Option Fault) :
    consume (Store.onInstance features keeping) kept records fault =
      (rows.reverse ++ kept, .ofFault fault) := by
  have adds : ∀ added row, added.length < kept.length + rows.length →
      keeping added row = .more (id row :: added) :=
    fun _ _ _ => rfl
  rw [Store.consume_adding each adds le_rfl, List.map_id]

/-- What is left of the filter of a request is a filter, or none. -/
theorem exists_filterOf (source : Source) (request : Request) :
    ∃ filter, filterOf source request = .ok filter ∧ Filter.Admitted source.schema filter := by
  have reads (value : Raw) (decoded : value.Decoded) :
      ∃ filter, Filter.accept source.schema value 0 = .ok filter ∧
        Filter.Admitted source.schema filter := by
    rcases Filter.accept_of_decoded source.schema 0 decoded with ⟨filter, accepted⟩
    exact ⟨filter, accepted, value, 0, accepted⟩
  rw [filterOf]
  cases request.parameter? "filter" with
  | none =>
      rcases reads .null .null with ⟨filter, accepted, admitted⟩
      exact ⟨filter, congrArg (Except.mapError Failure.text) accepted, admitted⟩
  | some written =>
      dsimp only
      rw [Filter.ofRequest]
      cases read : Json.ofText? written with
      | none =>
          exact ⟨none, rfl, .null, 0, Filter.accept_null _ _⟩
      | some value =>
          rcases reads value (Json.decoded_of_ofText? read) with ⟨filter, accepted, admitted⟩
          exact ⟨filter, congrArg (Except.mapError Failure.text) accepted, admitted⟩

/-- The features that a request for instances asks for. -/
def projectedBy (source : Source) (request : Request) : List Feature :=
  source.schema.projectedFeatures ((request.parameter? "projection").getD "")

/-- The instances of the cursor are streamed, and the fault of the cursor ends the stream. -/
theorem select_of_readAs
    {source : Source} {request : Request} {rows : List Row}
    (connected : source.database.connected = true)
    (each : List.Forall₂ (Store.ReadAs (projectedBy source request))
      source.database.pool.given.1 rows) :
    (select source request).result =
      streamed (projectedBy source request) rows (source.database.pool.given.2.map Fault.raised) := by
  rcases exists_filterOf source request with ⟨filter, found, admitted⟩
  rcases Filter.Node.conditionOf_of_admitted admitted with ⟨pieces, condition⟩
  have features : source.store.selected (selectionOf source request filter) =
      projectedBy source request :=
    source.schema.select_projectionOfText _
  have made : ∃ statement,
      source.store.selectStatement (selectionOf source request filter) = .ok statement :=
    Store.exists_selectStatement condition
  rcases made with ⟨statement, made⟩
  have streamed := Database.stream_of_connected connected (statement.map Cell.toRaw)
    (Store.onInstance (projectedBy source request) keeping) []
  rw [consume_keeping each, List.append_nil] at streamed
  rcases streamed with ⟨result, -, kept⟩
  rw [select, found]
  simp only [Store.read, made, features, result, kept, List.reverse_reverse]
  cases source.database.pool.given.2 <;> rfl

theorem handle_of_selecting
    {source : Source} {request : Request}
    (method : request.method = "GET")
    (path : withoutLineEnd request.path = "/source/instances")
    (same : source.credentials.Matches (keysOf request)) :
    handle source request = select source request := by
  have listed : ("GET", "/source/instances", Route.select) ∈ Route.table source.servesDocs := by
    cases source.servesDocs <;> decide +kernel
  have leads : destination source.servesDocs request.method request.path = .route .select := by
    rw [destination_eq_route_iff, method, path]
    exact listed
  exact handle_of_matches leads same

theorem store_error_eq :
    Response.error 500 "store_error" =
      { status := 500, contentType := some "application/json"
        body := "\x7b\"error\":\"store_error\"\x7d", aborted := false } := by
  decide +kernel

section Sending

variable {features : List Feature} {rows : List Row}

/-- Instances whose cursor ended are sent as their document. -/
theorem streamed_of_ended
    (short : ∀ feature ∈ features, Numeral.isOverlong feature.index = false) (rows : List Row) :
    ∃ body,
      streamed features rows none =
        { status := 200, contentType := some Response.jsonType, body, aborted := false } ∧
      Json.ofText? body = some (documentOf features rows) := by
  rcases exists_parts short rows with ⟨described, texts, parts⟩
  rcases parts.exists_streamBody true with ⟨body, made, chars⟩
  refine ⟨body, ?_, ?_⟩
  · simp [streamed, made]
  · rw [Json.ofText?, chars, if_pos rfl]
    exact ofChars?_of_writes (parts.writes_ended (Nat.le_succ _))

/-- The document of one instance. -/
example :
    streamed [⟨0, "size", .numeric⟩] [[.number .zero]] none =
      { status := 200, contentType := some "application/json"
        body := "\x7b\"features\":[\x7b\"index\": 0, \"name\": \"size\", " ++
          "\"type\": \"numeric\"\x7d],\"instances\":[[0.0]]\x7d"
        aborted := false } := by
  decide +kernel

/-- Instances whose cursor failed are sent without the end of their document. -/
theorem streamed_of_failed
    (short : ∀ feature ∈ features, Numeral.isOverlong feature.index = false)
    (begun : rows ≠ []) (failure : Failure) :
    ∃ body,
      streamed features rows (some failure) =
        { status := 200, contentType := some Response.jsonType, body, aborted := true } ∧
      Json.ofText? body = none ∧
      Json.ofText? (body ++ streamEnd) = some (documentOf features rows) := by
  rcases exists_parts short rows with ⟨described, texts, parts⟩
  rcases parts.exists_streamBody false with ⟨body, made, chars⟩
  rw [if_neg Bool.false_ne_true, String.toList_empty, List.append_nil] at chars
  refine ⟨body, ?_, ?_, ?_⟩
  · cases rows with
    | nil =>
        exact absurd rfl begun
    | cons row rest =>
        simp [streamed, made]
  · have unread : value? _ Json.maxNesting _ = none :=
      parts.value?_sent begun (Nat.le_succ _)
    have opened : skip body.toList = body.toList := by
      rw [chars]
      rfl
    rw [Json.ofText?, ofChars?, opened, chars, unread]
  · rw [Json.ofText?, String.toList_append, chars]
    exact ofChars?_of_writes (parts.writes_ended (Nat.le_succ _))

end Sending

/-- What a request for instances is answered, by the rows that the cursor gives and the fault that
it raises after them. -/
structure Streamed (source : Source) (request : Request) : Prop where
  /-- The answer is the document of all instances, in the order of the cursor. -/
  complete : ∀ records, source.database.pool.given = (records, none) →
    ∃ rows body,
      List.Forall₂ (Store.ReadAs (projectedBy source request)) records rows ∧
      (handle source request).result =
        { status := 200, contentType := some Response.jsonType, body, aborted := false } ∧
      Json.ofText? body = some (documentOf (projectedBy source request) rows)
  /-- What was sent before a fault is no document; all it lacks is the end of one. -/
  cut : ∀ records fault, source.database.pool.given = (records, some fault) → records ≠ [] →
    ∃ rows body,
      List.Forall₂ (Store.ReadAs (projectedBy source request)) records rows ∧
      (handle source request).result =
        { status := 200, contentType := some Response.jsonType, body, aborted := true } ∧
      Json.ofText? body = none ∧
      Json.ofText? (body ++ streamEnd) = some (documentOf (projectedBy source request) rows)
  /-- A fault of the driver before all rows is reported by the status, and no document is begun. -/
  failed : ∀ message, source.database.pool.given = ([], some (.driver message)) →
    (handle source request).result =
      { status := 500, contentType := some Response.jsonType
        body := "\x7b\"error\":\"store_error\"\x7d", aborted := false }

/-- A streamed answer is one document when it is complete and none when it is cut short, whatever
the rows hold in the columns of the projected features.  An index with more digits than a text may
hold could not be described, hence the bound on the schema. -/
theorem streamed_instances
    (source : Source) (request : Request)
    (method : request.method = "GET")
    (path : withoutLineEnd request.path = "/source/instances")
    (same : source.credentials.Matches (keysOf request))
    (connected : source.database.connected = true)
    (numbered : source.schema.size ≤ Nat.pow 10 Numeral.maxDigits)
    (present : ∀ record ∈ source.database.pool.given.1,
      Store.Presents (projectedBy source request) record) :
    Streamed source request := by
  have short : ∀ feature ∈ projectedBy source request,
      Numeral.isOverlong feature.index = false := by
    intro feature member
    have bounds := Schema.index_bounds (Schema.mem_of_mem_projectedFeatures member)
    exact Numeral.isOverlong_of_lt bounds.1 bounds.2 numbered
  rcases Store.exists_readAs_all present with ⟨rows, each⟩
  have answer := select_of_readAs connected each
  rw [← handle_of_selecting method path same] at answer
  constructor
  case complete =>
    intro records given
    rw [given] at each answer
    rcases streamed_of_ended short rows with ⟨body, sent, document⟩
    exact ⟨rows, body, each, answer.trans sent, document⟩
  case cut =>
    intro records fault given begun
    rw [given] at each answer
    have filled : rows ≠ [] := by
      rintro rfl
      cases each
      exact begun rfl
    rcases streamed_of_failed short filled fault.raised with ⟨body, sent, unread, ended⟩
    exact ⟨rows, body, each, answer.trans sent, unread, ended⟩
  case failed =>
    intro message given
    rw [given] at each answer
    cases each
    exact answer.trans store_error_eq

/-- One row, from a cursor that ends after it, times out after it, or times out at once. -/
theorem streamed_instances_of_names :
    let row : Record := [(.text "name", .text "x")]
    let source (failAfter : Option ℕ) : Source :=
      { store := .names
        database :=
          { settings := default
            connected := true
            pool :=
              { Pool.empty with
                rows := [row], fault := some (.driver "timeout"), failAfter := failAfter }
            connectFault := none }
        line := { queue := .empty (List Raw) 1 (by decide) 5, script := [], now := 0 }
        replicates := false
        client := none
        credentials := { publicKey := some "p", secretKey := some "s" }
        servesDocs := false }
    let request := { nameRequest with method := "GET" }
    request.method = "GET" ∧ withoutLineEnd request.path = "/source/instances" ∧
      (source none).credentials.Matches (keysOf request) ∧
      (source none).schema.size ≤ Nat.pow 10 Numeral.maxDigits ∧
      Store.Presents (projectedBy (source none) request) row ∧
      (source none).database.pool.given = ([row], none) ∧ Streamed (source none) request ∧
      (source (some 1)).database.pool.given = ([row], some (.driver "timeout")) ∧
      Streamed (source (some 1)) request ∧
      (source (some 0)).database.pool.given = ([], some (.driver "timeout")) ∧
      Streamed (source (some 0)) request := by
  intro row source request
  have path : withoutLineEnd request.path = "/source/instances" := by
    decide +kernel
  have same : (source none).credentials.Matches (keysOf request) :=
    ⟨by decide, by decide, rfl, rfl⟩
  have grows (digits : ℕ) : 1 ≤ Nat.pow 10 digits :=
    Nat.pow_pos (by decide)
  have numbered : (source none).schema.size ≤ Nat.pow 10 Numeral.maxDigits :=
    grows Numeral.maxDigits
  have presents : Store.Presents (projectedBy (source none) request) row := by
    have projected : projectedBy (source none) request = [⟨0, "name", .text⟩] := by
      decide +kernel
    rw [projected, Store.Presents, List.forall_mem_singleton]
    exact ⟨.text "x", rfl, rfl⟩
  have one : ∀ record ∈ [row], Store.Presents (projectedBy (source none) request) record :=
    List.forall_mem_singleton.mpr presents
  refine ⟨rfl, path, same, numbered, presents, rfl, ?_, rfl, ?_, rfl, ?_⟩
  · exact streamed_instances (source none) request rfl path same rfl numbered one
  · exact streamed_instances (source (some 1)) request rfl path same rfl numbered one
  · exact streamed_instances (source (some 0)) request rfl path same rfl numbered
      (List.forall_mem_nil _)

end Http

end TableSource
