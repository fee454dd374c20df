import CivicSite.Backend
import CivicSite.Proofs.Double.Value
import CivicSite.Proofs.Json.Scalar
import Mathlib.Data.List.Forall2

/-!
# Answers of the backend

Whatever comes back from the backend, asking for a settlement ends in a settlement with an id and a
place on the globe, and asking for posts ends in one post for each record, newest first. What does
not end so is a fault of the backend or of a record, which the window shows (`Fault.isReported`).
An answer is followed through the layers of its body (`payload_cases`), its record
(`Settlement.parse_cases`) and its coordinates (`Settlement.coordinate_cases`).

Three faults are of no such sort, and each has one cause (`Escapes`): the id has no UTF-8 and thus
no place in a link, the body lies too deep in itself, or a coordinate is a whole number that has no
double.
-/

namespace CivicSite

/-- Whether a fault is one of the two sorts that those who ask the backend are told of. -/
def Fault.isReported : Fault → Bool
  | validation _ | backend _ => true
  | _ => false

/-! ## Values -/

namespace Json

/-- A whole number that has no double. -/
def IsHuge : Json → Prop
  | int i => 2 ^ 1024 - 2 ^ 970 ≤ i.natAbs
  | _ => False

/-- What is brought to a double is a number, a fault of the record, or huge. -/
theorem toDouble_cases (v : Json) :
    (v.IsHuge ∧ v.toDouble = .error .tooLarge) ∨ (¬ v.IsHuge ∧ ∃ r, v.toDouble = .ok r) := by
  cases v with
  | int i =>
      unfold toDouble
      dsimp only
      cases hi : Double.ofInt? i with
      | none => exact .inl ⟨Double.ofInt?_eq_none_iff.mp hi, rfl⟩
      | some x =>
          refine .inr ⟨fun hhuge => ?_, _, rfl⟩
          rw [Double.ofInt?_eq_none_iff.mpr hhuge] at hi
          cases hi
  | text s =>
      unfold toDouble
      dsimp only
      cases Double.ofText? s with
      | none => exact .inr ⟨id, _, rfl⟩
      | some x => exact .inr ⟨id, _, rfl⟩
  | null => exact .inr ⟨id, _, rfl⟩
  | bool b => exact .inr ⟨id, _, rfl⟩
  | double x => exact .inr ⟨id, _, rfl⟩
  | list items => exact .inr ⟨id, _, rfl⟩
  | object entries => exact .inr ⟨id, _, rfl⟩

theorem text_int_ne_nil (i : Int) : Text.ofString (toString i) ≠ [] := by
  rw [ofString_toString_int]
  intro hnil
  have hdigits := (List.append_eq_nil_iff.mp (List.map_eq_nil_iff.mp hnil)).2
  exact Nat.toDigits_ne_nil hdigits

/-- What is not missing is shown by a text. -/
theorem display_ne_nil {v : Json} (h : v.isBlank = false) : v.display ≠ [] := by
  cases v with
  | null => cases h
  | bool b => cases b <;> exact List.cons_ne_nil _ _
  | int i => exact text_int_ne_nil i
  | double x => exact Double.text_ne_nil x
  | text s => exact List.isEmpty_eq_false_iff.mp h
  | list items => exact List.cons_ne_nil _ _
  | object entries => exact List.cons_ne_nil _ _

end Json

/-! ## Records of settlements -/

namespace Settlement

/-- A coordinate of a record that is a whole number without a double. -/
def HasHuge (record : Entries Json) (key : Text) : Prop :=
  ∃ v, record.get? key = some v ∧ v.IsHuge

/-- A coordinate of a record is a number, or a text that writes one. -/
def HasNumber (record : Entries Json) (key : Text) : Prop :=
  ∃ v x, record.get? key = some v ∧ v.toDouble = .ok (.ok x)

/-- What becomes of a coordinate. -/
inductive Coordinate (record : Entries Json) (key : Text) : Except Fault Double → Prop
  | huge (h : HasHuge record key) : Coordinate record key (.error .tooLarge)
  | faulty (h : ¬ HasHuge record key) (hnone : ¬ HasNumber record key) (e : ValidationFault) :
      Coordinate record key (.error (.validation e))
  | number (h : ¬ HasHuge record key) (hnumber : HasNumber record key) (x : Double) :
      Coordinate record key (.ok x)

theorem coordinate_cases (record : Entries Json) (key : Text) :
    Coordinate record key (coordinate record key) := by
  unfold coordinate
  cases hv : record.get? key with
  | none =>
      refine .faulty ?_ ?_ _
      · rintro ⟨v, hv', -⟩
        rw [hv] at hv'
        cases hv'
      · rintro ⟨v, x, hv', -⟩
        rw [hv] at hv'
        cases hv'
  | some v =>
      dsimp only
      rcases v.toDouble_cases with ⟨hhuge, hdouble⟩ | ⟨hsmall, r, hdouble⟩
      · rw [hdouble]
        exact .huge ⟨v, hv, hhuge⟩
      · have hnone : ¬ HasHuge record key := by
          rintro ⟨v', hv', hhuge⟩
          rw [hv] at hv'
          cases hv'
          exact hsmall hhuge
        rw [hdouble]
        cases r with
        | ok x => exact .number hnone ⟨v, x, hv, hdouble⟩ x
        | error e =>
            refine .faulty hnone ?_ _
            rintro ⟨v', x, hv', hx⟩
            rw [hv] at hv'
            cases hv'
            rw [hdouble] at hx
            cases hx

/-- The record has an id and a name, and the first of its coordinates that is no number is a whole
number without a double. -/
def Overflows (record : Entries Json) : Prop :=
  (∃ id, recordId record = .ok id) ∧ (record.get? "name").isSome = true
    ∧ (HasHuge record "lat" ∨ HasNumber record "lat" ∧ HasHuge record "lng")

theorem recordId_ne_nil {record : Entries Json} {id : Text} (h : recordId record = .ok id) :
    id ≠ [] := by
  unfold recordId at h
  split at h
  · cases h
  · rename_i v _
    split at h
    · cases h
    · rename_i hblank
      cases h
      exact Json.display_ne_nil (Bool.eq_false_iff.mpr hblank)

/-- What becomes of a record. -/
inductive Parsed (record : Entries Json) : Except Fault Settlement → Prop
  | overflow (h : Overflows record) : Parsed record (.error .tooLarge)
  | faulty (h : ¬ Overflows record) (e : ValidationFault) : Parsed record (.error (.validation e))
  | settlement (h : ¬ Overflows record) {s : Settlement} (hid : s.id ≠ [])
      (hlat : s.lat.Within 90) (hlng : s.lng.Within 180) : Parsed record (.ok s)

theorem within_of_validate {s : Settlement} (h : s.validate = .ok ()) :
    s.lat.Within 90 ∧ s.lng.Within 180 := by
  unfold validate at h
  split at h
  · cases h
  · rename_i hlat
    split at h
    · cases h
    · rename_i hlng
      rw [Bool.not_eq_true, Bool.not_eq_false'] at hlat hlng
      exact ⟨@Double.within_of_between s.lat 90 hlat, @Double.within_of_between s.lng 180 hlng⟩

/-- A record whose id and name are there, by its coordinates. -/
theorem parse_of_named {record : Entries Json} {id : Text} {name : Json}
    (hid : recordId record = .ok id) (hname : record.get? "name" = some name) :
    ∃ region active,
      region = ((record.get? "judet" <|> record.get? "region").map Json.display).getD ""
      ∧ parse record = (coordinate record "lat").bind fun lat =>
        (coordinate record "lng").bind fun lng =>
          ((⟨id, name.display, region, lat, lng, active⟩ : Settlement).validate.mapError
            Fault.validation).map fun _ => ⟨id, name.display, region, lat, lng, active⟩ := by
  refine ⟨_, ((record.get? "active").map Json.isTruthy).getD false, rfl, ?_⟩
  unfold parse ofRecord
  rw [hid, hname]
  cases coordinate record "lat" with
  | error e => rfl
  | ok lat =>
      cases coordinate record "lng" with
      | error e => rfl
      | ok lng => rfl

theorem parse_of_unnamed {record : Entries Json}
    (h : (∃ e, recordId record = .error e) ∨ record.get? "name" = none) :
    ∃ e, parse record = .error (.validation e) := by
  unfold parse ofRecord
  cases hid : recordId record with
  | error e => exact ⟨_, rfl⟩
  | ok id =>
      rcases h with ⟨e, he⟩ | hname
      · rw [hid] at he
        cases he
      · rw [hname]
        exact ⟨_, rfl⟩

/-- Where id and name are there, only the coordinates can be huge. -/
theorem overflows_iff {record : Entries Json} (hid : ∃ id, recordId record = .ok id)
    (hname : (record.get? "name").isSome = true) : Overflows record ↔
      HasHuge record "lat" ∨ HasNumber record "lat" ∧ HasHuge record "lng" :=
  ⟨fun h => h.2.2, fun h => ⟨hid, hname, h⟩⟩

theorem parsed_of_named {record : Entries Json} {id : Text} {name : Json}
    (hid : recordId record = .ok id) (hname : record.get? "name" = some name) :
    Parsed record (parse record) := by
  obtain ⟨region, active, -, hparse⟩ := parse_of_named hid hname
  have hoverflows := overflows_iff ⟨id, hid⟩ (Option.isSome_iff_exists.mpr ⟨name, hname⟩)
  have hlat := coordinate_cases record "lat"
  have hlng := coordinate_cases record "lng"
  rw [hparse]
  generalize coordinate record "lat" = lat? at hlat
  generalize coordinate record "lng" = lng? at hlng
  cases hlat with
  | huge hhuge => exact .overflow (hoverflows.mpr (.inl hhuge))
  | faulty hsmall hnone e =>
      refine .faulty (fun h => ?_) e
      rcases hoverflows.mp h with h | ⟨h, -⟩
      · exact hsmall h
      · exact hnone h
  | number hsmall hnumber lat =>
      have hnone (hsmall' : ¬ HasHuge record "lng") : ¬ Overflows record := by
        intro h
        rcases hoverflows.mp h with h | ⟨-, h⟩
        · exact hsmall h
        · exact hsmall' h
      cases hlng with
      | huge hhuge => exact .overflow (hoverflows.mpr (.inr ⟨hnumber, hhuge⟩))
      | faulty hsmall' _ e => exact .faulty (hnone hsmall') e
      | number hsmall' _ lng =>
          simp only [Except.bind]
          cases hvalid : (⟨id, name.display, region, lat, lng, active⟩ : Settlement).validate with
          | error e => exact .faulty (hnone hsmall') e
          | ok u =>
              obtain ⟨hlat, hlng⟩ := within_of_validate hvalid
              exact .settlement (hnone hsmall') (recordId_ne_nil hid) hlat hlng

theorem parse_cases (record : Entries Json) : Parsed record (parse record) := by
  by_cases hnamed : (∃ id, recordId record = .ok id) ∧ (record.get? "name").isSome = true
  · obtain ⟨⟨id, hid⟩, hname⟩ := hnamed
    obtain ⟨name, hname⟩ := Option.isSome_iff_exists.mp hname
    exact parsed_of_named hid hname
  · have hnone : ¬ Overflows record := fun h => hnamed ⟨h.1, h.2.1⟩
    have hunnamed : (∃ e, recordId record = .error e) ∨ record.get? "name" = none := by
      rcases hid : recordId record with e | id
      · exact .inl ⟨e, rfl⟩
      · refine .inr (Option.not_isSome_iff_eq_none.mp fun hname => ?_)
        exact hnamed ⟨⟨id, hid⟩, hname⟩
    obtain ⟨e, he⟩ := parse_of_unnamed hunnamed
    rw [he]
    exact .faulty hnone e

end Settlement

/-- What a request is answered with. -/
def Network.next (n : Network) : Outcome := n.answers.headD n.otherwise

theorem Network.fst_exchange (n : Network) (r : Request) : (n.exchange r).1 = n.next := by
  unfold Network.exchange Network.next
  cases n.answers <;> rfl

namespace Backend

/-! ## Bodies -/

/-- An answer that is no refusal holds a value inside its two layers. -/
def Holds (o : Outcome) (v : Json) : Prop :=
  ∃ (status : Int) (body : ByteArray) (outer inner : Entries Json),
    o = .answer status body ∧ status < 400 ∧ Json.read (bodyText body) = .ok (.object outer)
      ∧ outer.get? "data" = some (.object inner) ∧ inner.get? "data" = some v

/-- An answer that is no refusal lies too deep in itself. -/
def IsDeep (o : Outcome) : Prop :=
  ∃ (status : Int) (body : ByteArray), o = .answer status body ∧ status < 400
    ∧ Json.read (bodyText body) = .error .tooDeep

/-- What becomes of an answer. -/
inductive Unwrapped (o : Outcome) : Except Fault Json → Prop
  | deep (h : IsDeep o) : Unwrapped o (.error .tooDeep)
  | faulty (h : ¬ IsDeep o) (hnone : ∀ v, ¬ Holds o v) (e : BackendFault) :
      Unwrapped o (.error (.backend e))
  | value (h : ¬ IsDeep o) {v : Json} (hv : Holds o v) : Unwrapped o (.ok v)

theorem unwrap?_eq_some {v w : Json} : unwrap? v = some w ↔
    ∃ outer inner : Entries Json, v = .object outer ∧ outer.get? "data" = some (.object inner)
      ∧ inner.get? "data" = some w := by
  constructor
  · intro h
    unfold unwrap? at h
    split at h
    · rename_i outer
      split at h
      · rename_i inner hinner
        exact ⟨outer, inner, rfl, hinner, h⟩
      · cases h
    · cases h
  · rintro ⟨outer, inner, rfl, houter, hinner⟩
    unfold unwrap?
    dsimp only
    rw [houter]
    exact hinner

theorem holds_answer {status : Int} {body : ByteArray} (h : status < 400) {w : Json} :
    Holds (.answer status body) w
      ↔ ∃ v, Json.read (bodyText body) = .ok v ∧ unwrap? v = some w := by
  constructor
  · rintro ⟨_, _, outer, inner, ⟨⟩, -, hread, houter, hinner⟩
    exact ⟨.object outer, hread, unwrap?_eq_some.mpr ⟨outer, inner, rfl, houter, hinner⟩⟩
  · rintro ⟨v, hread, hw⟩
    obtain ⟨outer, inner, rfl, houter, hinner⟩ := unwrap?_eq_some.mp hw
    exact ⟨status, body, outer, inner, rfl, h, hread, houter, hinner⟩

theorem isDeep_answer {status : Int} {body : ByteArray} (h : status < 400) :
    IsDeep (.answer status body) ↔ Json.read (bodyText body) = .error .tooDeep := by
  constructor
  · rintro ⟨_, _, ⟨⟩, -, hread⟩
    exact hread
  · exact fun hread => ⟨status, body, rfl, h, hread⟩

/-- A request that fails or is refused holds nothing. -/
theorem unwrapped_of_refused {o : Outcome}
    (h : ∀ status body, o = .answer status body → 400 ≤ status) (e : BackendFault) :
    Unwrapped o (.error (.backend e)) := by
  refine .faulty ?_ ?_ e
  · rintro ⟨status, body, ho, hstatus, -⟩
    have := h status body ho
    omega
  · rintro v ⟨status, body, _, _, ho, hstatus, -⟩
    have := h status body ho
    omega

/-- A body that cannot be read holds nothing. -/
theorem unwrapped_of_unread {status : Int} {body : ByteArray} (hstatus : status < 400)
    {e : Json.ReadError} (hread : Json.read (bodyText body) = .error e) (he : e ≠ .tooDeep)
    (fault : BackendFault) : Unwrapped (.answer status body) (.error (.backend fault)) := by
  refine .faulty ?_ ?_ fault
  · rw [isDeep_answer hstatus, hread]
    rintro ⟨⟩
    exact he rfl
  · intro v
    rw [holds_answer hstatus, hread]
    rintro ⟨w, hw, -⟩
    cases hw

theorem payload_cases (o : Outcome) : Unwrapped o (payload o) := by
  rcases o with ⟨status, body⟩ | reason
  · unfold payload
    dsimp only
    by_cases hrefused : 400 ≤ status
    · rw [if_pos hrefused]
      refine unwrapped_of_refused ?_ _
      rintro _ _ ⟨⟩
      exact hrefused
    · have hstatus : status < 400 := by omega
      rw [if_neg hrefused]
      cases hread : Json.read (bodyText body) with
      | error e =>
          cases e with
          | tooDeep => exact .deep ((isDeep_answer hstatus).mpr hread)
          | malformed => exact unwrapped_of_unread hstatus hread nofun _
          | tooManyDigits count => exact unwrapped_of_unread hstatus hread nofun _
      | ok v =>
          have hshallow : ¬ IsDeep (.answer status body) := by
            rw [isDeep_answer hstatus, hread]
            nofun
          dsimp only
          cases hw : unwrap? v with
          | some w => exact .value hshallow ((holds_answer hstatus).mpr ⟨v, hread, hw⟩)
          | none =>
              refine .faulty hshallow (fun w hholds => ?_) _
              obtain ⟨v', hread', hw'⟩ := (holds_answer hstatus).mp hholds
              rw [hread] at hread'
              cases hread'
              rw [hw] at hw'
              cases hw'
  · exact unwrapped_of_refused (by rintro _ _ ⟨⟩) _

/-! ## Posts -/

/-- The records among the items of a list. -/
def records (items : List Json) : List (Entries Json) :=
  items.filterMap fun
    | .object record => some record
    | _ => none

theorem parsePosts_cons_eq_ok {record : Entries Json} {rest : List Json} {ps : List Post} :
    parsePosts (.object record :: rest) = .ok ps
      ↔ ∃ p qs, Post.parse record = .ok p ∧ parsePosts rest = .ok qs ∧ ps = p :: qs := by
  rw [parsePosts]
  cases Post.parse record with
  | error e => exact iff_of_false nofun (by rintro ⟨_, _, ⟨⟩, -⟩)
  | ok p =>
      cases parsePosts rest with
      | error e => exact iff_of_false nofun (by rintro ⟨_, _, -, ⟨⟩, -⟩)
      | ok qs =>
          constructor
          · rintro ⟨⟩
            exact ⟨p, qs, rfl, rfl, rfl⟩
          · rintro ⟨_, _, ⟨⟩, ⟨⟩, rfl⟩
            rfl

/-- **One post for each record**, in their order, unless a record is at fault. -/
theorem parsePosts_eq_ok {items : List Json} {ps : List Post} : parsePosts items = .ok ps ↔
    List.Forall₂ (fun record p => Post.parse record = .ok p) (records items) ps := by
  induction items generalizing ps with
  | nil =>
      rw [parsePosts, records, List.filterMap_nil, List.forall₂_nil_left_iff, Except.ok.injEq]
      exact eq_comm
  | cons v rest ih =>
      cases v with
      | object record =>
          have hrecords : records (.object record :: rest) = record :: records rest := rfl
          rw [hrecords, List.forall₂_cons_left_iff, parsePosts_cons_eq_ok]
          simp only [ih]
      | _ => exact ih

/-- The posts of a list of records. -/
structure Listed (items : List Json) (ps : List Post) : Prop where
  ordered : ps.Pairwise fun a b => Post.mayPrecede a b = true
  posts : ∃ qs, List.Forall₂ (fun record p => Post.parse record = .ok p) (records items) qs
    ∧ ps.Perm qs ∧ ps = Post.sorted qs

theorem listed_of_parsePosts {items : List Json} {qs : List Post} (h : parsePosts items = .ok qs) :
    Listed items (Post.sorted qs) :=
  ⟨Post.pairwise_sorted qs, qs, parsePosts_eq_ok.mp h, Post.sorted_perm qs, rfl⟩

/-- What becomes of an answer about posts. -/
inductive PostsAnswer (o : Outcome) : Except Fault (List Post) → Prop
  | deep (h : IsDeep o) : PostsAnswer o (.error .tooDeep)
  | faulty (h : ¬ IsDeep o) {e : Fault} (he : e.isReported = true) : PostsAnswer o (.error e)
  | posts (h : ¬ IsDeep o) {items : List Json} (hitems : Holds o (.list items)) {ps : List Post}
      (hps : Listed items ps) : PostsAnswer o (.ok ps)

theorem posts_cases (o : Outcome) : PostsAnswer o (posts o) := by
  unfold posts
  have hpayload := payload_cases o
  generalize payload o = r at hpayload
  cases hpayload with
  | deep h => exact .deep h
  | faulty h _ e => exact .faulty h rfl
  | @value h v hv =>
      cases v with
      | list items =>
          simp only [Bind.bind, Except.bind]
          cases hqs : parsePosts items with
          | error e => exact .faulty h rfl
          | ok qs => exact .posts h hv (listed_of_parsePosts hqs)
      | _ => exact .faulty h rfl

/-! ## Settlements -/

/-- An answer holds the record of a settlement whose coordinates overflow. -/
def IsOverflowing (o : Outcome) : Prop :=
  ∃ record : Entries Json, Holds o (.object record) ∧ Settlement.Overflows record

/-- What becomes of an answer about a settlement. -/
inductive SettlementAnswer (o : Outcome) : Except Fault Settlement → Prop
  | deep (h : IsDeep o) : SettlementAnswer o (.error .tooDeep)
  | overflow (h : IsOverflowing o) : SettlementAnswer o (.error .tooLarge)
  | faulty (h : ¬ IsDeep o) (hsmall : ¬ IsOverflowing o) {e : Fault} (he : e.isReported = true) :
      SettlementAnswer o (.error e)
  | settlement (h : ¬ IsDeep o) (hsmall : ¬ IsOverflowing o) {s : Settlement} (hid : s.id ≠ [])
      (hlat : s.lat.Within 90) (hlng : s.lng.Within 180) : SettlementAnswer o (.ok s)

/-- An answer holds one value. -/
theorem Holds.unique {o : Outcome} {v w : Json} (hv : Holds o v) (hw : Holds o w) : v = w := by
  obtain ⟨status, body, outer, inner, rfl, -, hread, houter, hinner⟩ := hv
  obtain ⟨_, _, _, _, ⟨⟩, -, hread', houter', hinner'⟩ := hw
  rw [hread] at hread'
  cases hread'
  rw [houter] at houter'
  cases houter'
  rw [hinner] at hinner'
  cases hinner'
  rfl

theorem Holds.not_deep {o : Outcome} {v : Json} (hv : Holds o v) : ¬ IsDeep o := by
  obtain ⟨status, body, outer, inner, rfl, -, hread, -⟩ := hv
  rintro ⟨_, _, ⟨⟩, -, hread'⟩
  rw [hread] at hread'
  cases hread'

theorem settlement_cases (o : Outcome) : SettlementAnswer o (settlement o) := by
  unfold settlement
  have hpayload := payload_cases o
  generalize payload o = r at hpayload
  cases hpayload with
  | deep h => exact .deep h
  | faulty h hnone e =>
      refine .faulty h ?_ rfl
      rintro ⟨record, hrecord, -⟩
      exact hnone _ hrecord
  | @value h v hv =>
      have hsmall : (∀ record : Entries Json, v = .object record → ¬ Settlement.Overflows record) →
          ¬ IsOverflowing o := by
        rintro hv' ⟨record, hrecord, hoverflow⟩
        exact hv' record (hv.unique hrecord) hoverflow
      cases v with
      | object record =>
          have hparse := Settlement.parse_cases record
          simp only [Bind.bind, Except.bind]
          generalize Settlement.parse record = r at hparse
          cases hparse with
          | overflow hoverflow => exact .overflow ⟨record, hv, hoverflow⟩
          | faulty hnone e => exact .faulty h (hsmall (by rintro _ ⟨⟩; exact hnone)) rfl
          | settlement hnone hid hlat hlng =>
              exact .settlement h (hsmall (by rintro _ ⟨⟩; exact hnone)) hid hlat hlng
      | _ => exact .faulty h (hsmall nofun) rfl

/-- A fault in asking for a settlement that is neither of the backend nor of the record, by its
cause. -/
inductive Escapes (id : Text) (o : Outcome) : Fault → Prop
  | unencodable (h : id.isEncodable = false) : Escapes id o .unencodable
  | deep (h : id.isEncodable = true) (hdeep : IsDeep o) : Escapes id o .tooDeep
  | overflow (h : id.isEncodable = true) (hoverflow : IsOverflowing o) : Escapes id o .tooLarge

theorem IsOverflowing.not_deep {o : Outcome} (h : IsOverflowing o) : ¬ IsDeep o := by
  obtain ⟨record, hrecord, -⟩ := h
  exact hrecord.not_deep

variable {id : Text}

theorem escapes_of_settlement {o : Outcome} (h : id.isEncodable = true) {e : Fault}
    (he : settlement o = .error e) : e.isReported = true ∨ Escapes id o e := by
  have hcases := settlement_cases o
  rw [he] at hcases
  cases hcases with
  | deep hdeep => exact .inr (.deep h hdeep)
  | overflow hoverflow => exact .inr (.overflow h hoverflow)
  | faulty _ _ hreported => exact .inl hreported

theorem settlement_of_deep {o : Outcome} (h : IsDeep o) : settlement o = .error .tooDeep := by
  have hcases := settlement_cases o
  generalize settlement o = r at hcases
  cases hcases with
  | deep => rfl
  | overflow hoverflow => exact absurd h hoverflow.not_deep
  | faulty hshallow => exact absurd h hshallow
  | settlement hshallow => exact absurd h hshallow

theorem settlement_of_overflowing {o : Outcome} (h : IsOverflowing o) :
    settlement o = .error .tooLarge := by
  have hcases := settlement_cases o
  generalize settlement o = r at hcases
  cases hcases with
  | deep hdeep => exact absurd hdeep h.not_deep
  | overflow => rfl
  | faulty _ hsmall => exact absurd h hsmall
  | settlement _ hsmall => exact absurd h hsmall

theorem posts_of_deep {o : Outcome} (h : IsDeep o) : posts o = .error .tooDeep := by
  have hcases := posts_cases o
  generalize posts o = r at hcases
  cases hcases with
  | deep => rfl
  | faulty hshallow => exact absurd h hshallow
  | posts hshallow => exact absurd h hshallow

/-! ## Exchanges -/

theorem getSettlement_eq (b : Backend) (id : Text) (n : Network) :
    (b.getSettlement id n).1
      = if id.isEncodable then settlement n.next else .error .unencodable := by
  unfold getSettlement
  cases id.isEncodable with
  | false => rfl
  | true => exact congrArg settlement (n.fst_exchange _)

theorem getPosts_eq (b : Backend) (id : Text) (n : Network) :
    (b.getPosts id n).1 = posts n.next := congrArg posts (n.fst_exchange _)

/-- **Whatever the backend answers**, asking for a settlement ends in one with an id and a place on
the globe, and asking for posts in one post for each record, newest first, or a fault of the backend
or of a record is reported. Other faults there are, for just the causes that `Escapes` and `IsDeep`
name. -/
theorem answers_exact (b : Backend) (id : Text) (n : Network) :
    let settlement := (b.getSettlement id n).1
    let posts := (b.getPosts id n).1
    (∀ s, settlement = .ok s → s.id ≠ [] ∧ s.lat.Within 90 ∧ s.lng.Within 180)
      ∧ (∀ e, settlement = .error e → e.isReported = true ∨ Escapes id n.next e)
      ∧ (∀ e, Escapes id n.next e → settlement = .error e)
      ∧ (∀ ps, posts = .ok ps → ∃ items, Holds n.next (.list items) ∧ Listed items ps)
      ∧ (∀ e, posts = .error e → e.isReported = true ∨ e = .tooDeep ∧ IsDeep n.next)
      ∧ (IsDeep n.next → posts = .error .tooDeep) := by
  intro found listed
  have hfound : found = _ := getSettlement_eq b id n
  have hlisted : listed = posts n.next := getPosts_eq b id n
  refine ⟨fun s hs => ?_, fun e he => ?_, fun e he => ?_, fun ps hps => ?_, fun e he => ?_, ?_⟩
  · rw [hfound] at hs
    split at hs
    · have hcases := settlement_cases n.next
      rw [hs] at hcases
      cases hcases with
      | settlement _ _ hid hlat hlng => exact ⟨hid, hlat, hlng⟩
    · cases hs
  · rw [hfound] at he
    split at he
    · exact escapes_of_settlement ‹_› he
    · cases he
      exact .inr (.unencodable (Bool.eq_false_iff.mpr ‹_›))
  · rw [hfound]
    cases he with
    | unencodable hid => rw [hid, if_neg Bool.false_ne_true]
    | deep hid hdeep => rw [hid, if_pos rfl, settlement_of_deep hdeep]
    | overflow hid hoverflow => rw [hid, if_pos rfl, settlement_of_overflowing hoverflow]
  · rw [hlisted] at hps
    have hcases := posts_cases n.next
    rw [hps] at hcases
    cases hcases with
    | posts _ hitems hordered => exact ⟨_, hitems, hordered⟩
  · rw [hlisted] at he
    have hcases := posts_cases n.next
    rw [he] at hcases
    cases hcases with
    | deep hdeep => exact .inr ⟨rfl, hdeep⟩
    | faulty _ hreported => exact .inl hreported
  · intro hdeep
    rw [hlisted, posts_of_deep hdeep]

end Backend

end CivicSite
