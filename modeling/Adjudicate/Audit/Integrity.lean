/-
This file proves that built records stay verifiable and that tampering shows.
-/

import Adjudicate.Audit.Verify

namespace Adjudicate.Audit

open Js Canonical Adjudicate.Core

/-- These fields may change without any effect on the verification. -/
def annotationFields : List JsString := ["metadata", "prevAuditHash"]

theorem notMem_annotationFields {name : JsString} (kept : name ∉ strippedFields) :
    name ∉ annotationFields := fun annotation =>
  kept (List.mem_cons_of_mem _ (List.mem_cons_of_mem _ annotation))

/-- A sealed record satisfies everything that the verification reads. -/
structure Sealed (host : Host) (stored : JsString) (record : Props JsValue) : Prop where
  distinct : (keys record).Nodup
  json : ∀ name ∉ annotationFields, (field record name).isUndefined = false →
    (field record name).IsJson
  envelope : ∃ envelope intentHash, field record "envelope" = .obj envelope ∧
    sha256Canonical host (storedHashInput (.obj envelope)) = .ok intentHash ∧
    (JsValue.obj envelope).getOwn "intentHash" = .str intentHash
  auditHash : field record "auditHash" = .str stored
  hash : sha256Canonical host (.obj (strip record)) = .ok stored
  signature : field record "signature" = .undefined ∨
    ∃ signature keyId value, field record "signature" = .obj signature ∧
      (JsValue.obj signature).getOwn "alg" = .str auditHashbindAlg ∧
      (JsValue.obj signature).getOwn "keyId" = .str keyId ∧
      (JsValue.obj signature).getOwn "value" = .str value ∧
      hashBindValue host (.str stored) (.str keyId) = .ok value

theorem getOwn_strip {record : Props JsValue} (distinct : (keys record).Nodup) (name : JsString) :
    field (strip record) name = if name ∈ strippedFields then .undefined else field record name := by
  have order (name : JsString) : (enumerate record).lookup name = record.lookup name :=
    lookup_perm (enumerate_perm record) ((keys_perm (enumerate_perm record)).nodup_iff.mpr distinct) name
  have kept (props : Props JsValue) (name : JsString) :
      (props.filter fun property => property.1 ∉ strippedFields).lookup name =
        if name ∈ strippedFields then none else props.lookup name := by
    induction props with
    | nil => simp
    | cons property props ih =>
        obtain ⟨other, value⟩ := property
        rw [List.filter_cons]
        split
        · next inside =>
            rw [lookup_cons_if, lookup_cons_if, ih]
            by_cases same : name = other
            · subst same
              simpa using inside
            · simp [same]
        · next outside =>
            rw [ih, lookup_cons_if]
            by_cases same : name = other
            · subst same
              simp [by simpa using outside]
            · simp [same]
  rw [field, JsValue.getOwn, strip, kept, order]
  split <;> rfl

theorem strip_nodup {record : Props JsValue} (distinct : (keys record).Nodup) :
    (keys (strip record)).Nodup :=
  ((keys_perm (enumerate_perm record)).nodup_iff.mpr distinct).sublist (List.filter_sublist.map _)

theorem isJson_of_getOwn {props : Props JsValue} (distinct : (keys props).Nodup)
    (json : ∀ name, (field props name).isUndefined = false → (field props name).IsJson) :
    (JsValue.obj props).IsJson := by
  rw [JsValue.IsJson, isJsonProps_iff]
  refine ⟨distinct, ?_⟩
  rintro ⟨name, value⟩ inside present
  have found : field props name = value := by
    rw [field, JsValue.getOwn, (lookup_eq_some distinct name value).mpr inside]
    rfl
  rw [← found] at present ⊢
  exact json name present

theorem strip_isJson {record : Props JsValue} (distinct : (keys record).Nodup)
    (json : ∀ name ∉ annotationFields, (field record name).isUndefined = false →
      (field record name).IsJson) : (JsValue.obj (strip record)).IsJson := by
  apply isJson_of_getOwn (strip_nodup distinct)
  intro name
  rw [getOwn_strip distinct]
  split
  · intro present
    cases present
  · next kept => exact json name (notMem_annotationFields kept)

/-- Records that share their bound properties share their hash. -/
theorem hash_strip_congr (host : Host) {left right : Props JsValue}
    (leftDistinct : (keys left).Nodup) (rightDistinct : (keys right).Nodup)
    (leftJson : (JsValue.obj (strip left)).IsJson) (rightJson : (JsValue.obj (strip right)).IsJson)
    (same : ∀ name ∉ strippedFields, encodingOf host (field left name) =
      encodingOf host (field right name)) :
    sha256Canonical host (.obj (strip left)) = sha256Canonical host (.obj (strip right)) := by
  rw [sha256Canonical_eq host leftJson, sha256Canonical_eq host rightJson,
    (canonicalTree_obj_iff host (strip_nodup leftDistinct) (strip_nodup rightDistinct)).mpr]
  intro name _
  change encodingOf host (field (strip left) name) = encodingOf host (field (strip right) name)
  rw [getOwn_strip leftDistinct, getOwn_strip rightDistinct]
  split
  · rfl
  · next kept => exact same name kept

theorem Sealed.envelopeMismatch {host : Host} {stored : JsString} {record : Props JsValue}
    (whole : Sealed host stored record) :
    Audit.envelopeMismatch host (field record "envelope") = .ok none := by
  obtain ⟨envelope, intentHash, present, derived, intentField⟩ := whole.envelope
  have equal : timingSafeHexEqual (.str intentHash) (.str intentHash) = true :=
    (timingSafeHexEqual_iff _ _).mpr rfl
  rw [present, Audit.envelopeMismatch, derived, intentField]
  simp only [isNullish, ok_bind, equal]
  rfl

theorem Sealed.signatureMismatch {host : Host} {stored : JsString} {record : Props JsValue}
    (whole : Sealed host stored record)
    (verifySignature : Option (JsValue → JsValue → Except Thrown Bool)) :
    Audit.signatureMismatch host verifySignature (.str stored) (field record "signature") =
      .ok none := by
  obtain absent | ⟨signature, keyId, value, present, alg, key, bound, expected⟩ := whole.signature
  · rw [absent]
    rfl
  · have algRead : readProp (.obj signature) "alg" = .ok (.str auditHashbindAlg) :=
      congrArg Except.ok alg
    have isHashbind : isText (.str auditHashbindAlg) auditHashbindAlg = true := by decide
    have equal : timingSafeHexEqual (.str value) (.str value) = true :=
      (timingSafeHexEqual_iff _ _).mpr rfl
    rw [present, Audit.signatureMismatch, algRead, key, bound, ok_bind]
    dsimp only
    rw [if_pos isHashbind, expected, ok_bind, if_pos equal]
    rfl

/-- A sealed record is verified whatever verifier the caller supplies. -/
theorem Sealed.verified {host : Host} {stored : JsString} {record : Props JsValue}
    (whole : Sealed host stored record)
    (verifySignature : Option (JsValue → JsValue → Except Thrown Bool)) :
    verifyAuditRecord host verifySignature record = .ok .verified := by
  have equal : timingSafeHexEqual (.str stored) (.str stored) = true :=
    (timingSafeHexEqual_iff _ _).mpr rfl
  rw [verifyAuditRecord, whole.envelopeMismatch, whole.auditHash, whole.hash]
  simp only [ok_bind, equal, whole.signatureMismatch]
  rfl

/-- Annotations do not break the seal. -/
theorem Sealed.annotate {host : Host} {stored : JsString} {record annotated : Props JsValue}
    (whole : Sealed host stored record) (distinct : (keys annotated).Nodup)
    (same : ∀ name ∉ annotationFields, field annotated name = field record name) :
    Sealed host stored annotated := by
  have json (name : JsString) (bound : name ∉ annotationFields)
      (present : (field annotated name).isUndefined = false) : (field annotated name).IsJson := by
    rw [same name bound] at present ⊢
    exact whole.json name bound present
  have hash : sha256Canonical host (.obj (strip annotated)) = .ok stored := by
    rw [← whole.hash]
    apply hash_strip_congr host distinct whole.distinct (strip_isJson distinct json)
      (strip_isJson whole.distinct whole.json)
    intro name kept
    rw [same name (notMem_annotationFields kept)]
  exact
    { distinct := distinct
      json := json
      envelope := by
        rw [same "envelope" (by decide)]
        exact whole.envelope
      auditHash := by
        rw [same "auditHash" (by decide)]
        exact whole.auditHash
      hash := hash
      signature := by
        rw [same "signature" (by decide)]
        exact whole.signature }

theorem storedHashInput_isJson {envelope : Props JsValue} (json : (JsValue.obj envelope).IsJson) :
    (storedHashInput (.obj envelope)).IsJson := by
  rw [storedHashInput, JsValue.IsJson, isJsonProps_iff]
  refine ⟨by simp [keys], ?_⟩
  simp only [List.forall_mem_cons, List.not_mem_nil, false_implies, implies_true, and_true]
  exact ⟨getOwn_isJson json _, getOwn_isJson json _, getOwn_isJson json _, getOwn_isJson json _,
    getOwn_isJson json _, getOwn_isJson json _, getOwn_isJson json _, getOwn_isJson json _⟩

/-- The hash of a stored envelope survives a reload. -/
theorem storedHashInput_reload (host : Host) {envelope : Props JsValue}
    (json : (JsValue.obj envelope).IsJson) :
    sha256Canonical host (storedHashInput (reload (.obj envelope))) =
      sha256Canonical host (storedHashInput (.obj envelope)) := by
  have reloaded := reload_isJson _ json
  rw [reload_obj json.1] at reloaded ⊢
  have leftInput := storedHashInput_isJson reloaded
  have rightInput := storedHashInput_isJson json
  rw [sha256Canonical_eq host leftInput, sha256Canonical_eq host rightInput]
  rw [storedHashInput] at leftInput rightInput ⊢
  rw [storedHashInput, (canonicalTree_obj_iff host leftInput.1 rightInput.1).mpr]
  intro key _
  have property (name : JsString) :
      encodingOf host ((JsValue.obj (mapValues Json.toValue (enumerate
        (serializeProps envelope)))).getOwn name) =
        encodingOf host ((JsValue.obj envelope).getOwn name) := by
    rw [← reload_obj json.1, getOwn_reload json.1]
    exact encodingOf_reload host (getOwn_isJson json name)
  simp only [JsValue.getOwn] at property ⊢
  simp only [lookup_cons_if, List.lookup_nil]
  repeat' split
  all_goals first | exact property _ | rfl

/-- A reload keeps the seal although it may change the annotations. -/
theorem Sealed.reload {host : Host} {stored : JsString} {record reloaded : Props JsValue}
    (whole : Sealed host stored record)
    (same : Canonical.reload (.obj record) = .obj reloaded) : Sealed host stored reloaded := by
  have property (name : JsString) :
      field reloaded name = Canonical.reload (field record name) := by
    rw [field, ← same, getOwn_reload whole.distinct]
    rfl
  have distinct : (keys reloaded).Nodup := by
    rw [reload_obj whole.distinct] at same
    exact JsValue.obj.inj same ▸ reload_nodup whole.distinct
  have json (name : JsString) (bound : name ∉ annotationFields)
      (present : (field reloaded name).isUndefined = false) : (field reloaded name).IsJson := by
    rw [property] at present ⊢
    exact reload_isJson _ (whole.json name bound ((isUndefined_reload _).symm.trans present))
  have hash : sha256Canonical host (.obj (strip reloaded)) = .ok stored := by
    rw [← whole.hash]
    apply hash_strip_congr host distinct whole.distinct (strip_isJson distinct json)
      (strip_isJson whole.distinct whole.json)
    intro name kept
    rw [property]
    exact encodingOf_reload host (whole.json name (notMem_annotationFields kept))
  have member {name key text : JsString} {inner : Props JsValue} (bound : name ∉ annotationFields)
      (present : field record name = .obj inner) (value : (JsValue.obj inner).getOwn key = .str text) :
      (Canonical.reload (.obj inner)).getOwn key = .str text := by
    have innerJson := whole.json name bound (by rw [present]; rfl)
    rw [present] at innerJson
    rw [getOwn_reload innerJson.1, value, reload_str]
  refine ⟨distinct, json, ?_, ?_, hash, ?_⟩
  · obtain ⟨envelope, intentHash, present, derived, intentField⟩ := whole.envelope
    have envelopeJson := whole.json "envelope" (by decide) (by rw [present]; rfl)
    rw [present] at envelopeJson
    have derivedAgain := (storedHashInput_reload host envelopeJson).trans derived
    have intentAgain := member (by decide) present intentField
    rw [reload_obj envelopeJson.1] at derivedAgain intentAgain
    exact ⟨_, intentHash, by rw [property, present, reload_obj envelopeJson.1], derivedAgain,
      intentAgain⟩
  · rw [property, whole.auditHash, reload_str]
  · obtain absent | ⟨signature, keyId, value, present, alg, key, bound, expected⟩ := whole.signature
    · left
      rw [property, absent, reload_eq]
      rfl
    · right
      have signatureJson := whole.json "signature" (by decide) (by rw [present]; rfl)
      rw [present] at signatureJson
      have algAgain := member (by decide) present alg
      have keyAgain := member (by decide) present key
      have boundAgain := member (by decide) present bound
      rw [reload_obj signatureJson.1] at algAgain keyAgain boundAgain
      exact ⟨_, keyId, value, by rw [property, present, reload_obj signatureJson.1], algAgain,
        keyAgain, boundAgain, expected⟩

theorem field_setOwn (record : Props JsValue) (name : JsString) (value : JsValue)
    (other : JsString) :
    field (setOwn record name value) other = if other = name then value else field record other := by
  rw [field, JsValue.getOwn, lookup_setOwn]
  split <;> rfl

theorem attachAuditMetadata_nodup {record : Props JsValue} (distinct : (keys record).Nodup)
    (metadata : Props JsValue) : (keys (attachAuditMetadata record metadata)).Nodup := by
  have order := (keys_perm (enumerate_perm record)).nodup_iff.mpr distinct
  have spread : spreadInto [] record = enumerate record := defineAll_of_nodup order
  rw [attachAuditMetadata, spread]
  exact setOwn_nodup order _ _

/-- Attaching metadata changes one field. -/
theorem field_attachAuditMetadata {record : Props JsValue} (distinct : (keys record).Nodup)
    (metadata : Props JsValue) (name : JsString) :
    field (attachAuditMetadata record metadata) name =
      if name = utf16 "metadata" then
        .obj (spreadInto (spreadInto [] (field record "metadata").ownProps) metadata)
      else field record name := by
  have order := (keys_perm (enumerate_perm record)).nodup_iff.mpr distinct
  have spread : spreadInto [] record = enumerate record := defineAll_of_nodup order
  rw [attachAuditMetadata, spread, field_setOwn]
  split
  · rfl
  · exact congrArg (Option.getD · .undefined) (lookup_perm (enumerate_perm record) order name)

/-- A record is annotated, chained and reloaded in any order. -/
inductive Persisted (record : Props JsValue) : Props JsValue → Prop where
  | built : Persisted record record
  | attach {current : Props JsValue} (metadata : Props JsValue) :
      Persisted record current → Persisted record (attachAuditMetadata current metadata)
  | link {current : Props JsValue} (prevAuditHash : JsValue) :
      Persisted record current → Persisted record (setOwn current "prevAuditHash" prevAuditHash)
  | unlink {current : Props JsValue} :
      Persisted record current → Persisted record (deleteOwn current "prevAuditHash")
  | reload {current : Props JsValue} :
      Persisted record current → Persisted record (Canonical.reload (.obj current)).ownProps

/-- Every persisted form of a sealed record is sealed. -/
theorem Sealed.persisted {host : Host} {stored : JsString} {record current : Props JsValue}
    (whole : Sealed host stored record) (persisted : Persisted record current) :
    Sealed host stored current := by
  induction persisted with
  | built => exact whole
  | @attach current metadata _ ih =>
      apply ih.annotate (attachAuditMetadata_nodup ih.distinct metadata)
      intro name bound
      have other : name ≠ utf16 "metadata" := by
        rintro rfl
        exact bound (by decide)
      rw [field_attachAuditMetadata ih.distinct, if_neg other]
  | @link current prevAuditHash _ ih =>
      apply ih.annotate (setOwn_nodup ih.distinct _ _)
      intro name bound
      have other : name ≠ utf16 "prevAuditHash" := by
        rintro rfl
        exact bound (by decide)
      rw [field_setOwn, if_neg other]
  | @unlink current _ ih =>
      have distinct : (keys (deleteOwn current "prevAuditHash")).Nodup :=
        ih.distinct.sublist (List.filter_sublist.map _)
      apply ih.annotate distinct
      intro name bound
      have other : name ≠ utf16 "prevAuditHash" := by
        rintro rfl
        exact bound (by decide)
      rw [field, JsValue.getOwn, lookup_deleteOwn, if_neg other]
      rfl
  | reload _ ih =>
      apply ih.reload
      rw [reload_obj ih.distinct]
      rfl

/-- Without collisions, a sealed record shows every change of a bound field. -/
theorem Sealed.tampered {host : Host} (free : host.CollisionFree) {stored : JsString}
    {record : Props JsValue} (whole : Sealed host stored record)
    (verifySignature : Option (JsValue → JsValue → Except Thrown Bool)) {name : JsString}
    {value : JsValue} (bound : name ∉ strippedFields) (notEnvelope : name ≠ utf16 "envelope")
    (notProto : name ≠ protoKey) (json : value.isUndefined = false → value.IsJson)
    (changed : encodingOf host value ≠ encodingOf host (field record name)) :
    ∃ derived, verifyAuditRecord host verifySignature (setOwn record name value) =
      .ok (.tampered derived (.str stored)) := by
  have distinct := setOwn_nodup whole.distinct name value
  have changedJson (other : JsString) (kept : other ∉ annotationFields)
      (present : (field (setOwn record name value) other).isUndefined = false) :
      (field (setOwn record name value) other).IsJson := by
    rw [field_setOwn] at present ⊢
    split at present
    · next same =>
        rw [if_pos same]
        exact json present
    · next different =>
        rw [if_neg different]
        exact whole.json other kept present
  have changedStrip := strip_isJson distinct changedJson
  have wholeStrip := strip_isJson whole.distinct whole.json
  obtain ⟨derived, hash⟩ : ∃ derived,
      sha256Canonical host (.obj (strip (setOwn record name value))) = .ok derived :=
    ⟨_, sha256Canonical_eq host changedStrip⟩
  have different : derived ≠ stored := by
    rintro rfl
    have trees := (canonicalJson_eq_iff host changedStrip wholeStrip).mp
      ((sha256Canonical_eq_iff free changedStrip wholeStrip).mp (hash.trans whole.hash.symm))
    have same := (canonicalTree_obj_iff host (strip_nodup distinct)
      (strip_nodup whole.distinct)).mp trees name notProto
    change encodingOf host (field (strip _) name) = encodingOf host (field (strip _) name) at same
    rw [getOwn_strip distinct, getOwn_strip whole.distinct, if_neg bound, if_neg bound,
      field_setOwn, if_pos rfl] at same
    exact changed same
  have unequal : timingSafeHexEqual (.str derived) (.str stored) = false := by
    rw [Bool.eq_false_iff, Ne, timingSafeHexEqual_iff]
    exact different
  have auditHash : utf16 "auditHash" ≠ name := by
    rintro rfl
    exact bound (by decide)
  refine ⟨derived, ?_⟩
  rw [verifyAuditRecord, field_setOwn, if_neg notEnvelope.symm, field_setOwn, if_neg auditHash,
    whole.envelopeMismatch, whole.auditHash, hash]
  simp only [ok_bind, unequal]
  rfl

end Adjudicate.Audit
