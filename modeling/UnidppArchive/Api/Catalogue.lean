import UnidppArchive.Api.Service

/-
  The as-of catalogue (`api.rs`).

  The parameters of a request are a map of strings.

  Key definitions include:
    * `Api.parseAt`
    * `Api.optQuery`
    * `cacheFor`
    * `catalogueBody`
    * `listSnapshots`

  Key theorems include:
    * `listSnapshots_pointInTime_iff`
    * `body_listSnapshots`
-/

------------------------------------------------------------
-- Parameters
------------------------------------------------------------

namespace UnidppArchive

namespace Api

/- `at`, else `asof`; an empty text counts as none. -/
def parseAt
    (params : String → Option String) :
    Except String (Option Timestamp) :=
  match (params "at").or (params "asof") with
  | none => .ok none
  | some s =>
      if s = "" then
        .ok none
      else
        ((Timestamp.parse s).map some).mapError
          (fun e => s!"invalid `at` parameter: {e.message}")

/- An optional parameter, trimmed and not blank. -/
def optQuery
    (params : String → Option String)
    (key : String) : Option String :=
  ((params key).map Text.trim).filter (· ≠ "")

end Api

/- An answer as of an instant never changes. -/
def cacheFor
    (at? : Option Timestamp) : CachePolicy :=
  if at?.isSome then .pointInTime else .current

end UnidppArchive

------------------------------------------------------------
-- Listing
------------------------------------------------------------

namespace UnidppArchive

open Json

variable (C : Crates)

/- What the catalogue says of a record. -/
def catalogueRow
    (r : SnapshotRecord) : Value :=
  let a := r.anchoring
  object
    [("snapshot_id", .string r.snapshotId),
      ("seq", u64 r.seq),
      ("passport_id", .string r.passportId),
      ("state_hash", .string (C.model.hex r.stateHash)),
      ("log_head", .string (C.model.hex r.logHead)),
      ("notarized_at", .string r.notarizedAt.toString),
      ("anchored", .bool (decide (a.status = .anchored))),
      ("log_id", optString a.logId),
      ("receipt_id",
        optString (a.receiptSeq.map Text.u64ToString)),
      ("tree_size", optU64 a.treeSize),
      ("root", optString (a.root.map C.model.hex)),
      ("body_sha256", .string (C.model.hex r.bodyDigest)),
      ("href", .string s!"/snapshots/{r.snapshotId}")]

/- The catalogue with an echo of the query. -/
def catalogueBody
    (asOf : Timestamp)
    (at? : Option Timestamp)
    (passportId : Option String)
    (rows : List Value) : Value :=
  object
    [("as_of", .string asOf.toString),
      ("query", object
        [("at", optString (at?.map Timestamp.toString)),
          ("passport_id", optString passportId)]),
      ("count", u64 (UInt64.ofNat rows.length)),
      ("snapshots", .array (Values.ofList rows))]

/- `GET /snapshots`. -/
def listSnapshots
    (store : SnapshotStore)
    (now : Timestamp)
    (params : String → Option String) : Response :=
  match Api.parseAt params with
  | .error e => badRequest C now e
  | .ok at? =>
      let asOf := at?.getD now
      let passportId := Api.optQuery params "passport_id"
      let rows :=
        (store.list passportId at?).map (catalogueRow C)
      jsonResponse C 200
        (catalogueBody asOf at? passportId rows) asOf
        (cacheFor at?)

variable {C : Crates}
variable {store : SnapshotStore}
variable {now : Timestamp}
variable {params : String → Option String}

/- An answer is immutable exactly for a given instant. -/
theorem listSnapshots_pointInTime_iff
    (store : SnapshotStore)
    (now : Timestamp)
    (params : String → Option String) :
    ((listSnapshots C store now params).status = 200 ∧
      (listSnapshots C store now params).header?
          "cache-control" =
        some CachePolicy.pointInTime.headerValue) ↔
      ∃ t, Api.parseAt params = .ok (some t) := by
  unfold listSnapshots
  cases hAt : Api.parseAt params with
  | error e => simp [badRequest]
  | ok at? =>
      cases at? with
      | none =>
          simp [jsonResponse, buildResponse, cacheFor,
            Response.header?, CachePolicy.headerValue]
      | some t =>
          simp [jsonResponse, buildResponse, cacheFor,
            Response.header?]

/- Its body is of the records up to that instant. -/
theorem body_listSnapshots
    {t : Timestamp}
    (h : Api.parseAt params = .ok (some t)) :
    (listSnapshots C store now params).body =
      C.serde.toStringPretty
        (catalogueBody t (some t)
          (Api.optQuery params "passport_id")
          ((store.list (Api.optQuery params "passport_id")
            (some t)).map (catalogueRow C))) := by
  unfold listSnapshots
  rw [h]
  rfl

end UnidppArchive
