/-
This file models policy manifests, their digest and the diff of two manifests.
-/

import Adjudicate.Analyze.StableStringify
import Adjudicate.Js.Sorting

namespace Adjudicate.Analyze

open Js Canonical

/-- An object whose member with this name is a text. -/
structure ManifestNode (keyName : JsString) where
  props : Props JsValue
  distinct : (keys props).Nodup
  name : JsString
  named : (JsValue.obj props).getOwn keyName = .str name

def ManifestNode.toJs {keyName : JsString} (node : ManifestNode keyName) : JsValue := .obj node.props

structure IntentManifestNode extends ManifestNode "kind" where
  guardNames : List JsString
  listsGuards : (JsValue.obj props).getOwn "guardNames" = .arr (guardNames.map .str)

abbrev GuardManifestNode : Type := ManifestNode "name"

structure PackManifestNode extends ManifestNode "id" where
  intents : List IntentManifestNode
  guards : List GuardManifestNode
  listsIntents : (JsValue.obj props).getOwn "intents" = .arr (intents.map fun node => node.toJs)
  listsGuards : (JsValue.obj props).getOwn "guards" = .arr (guards.map fun node => node.toJs)

structure PolicyManifest where
  manifestVersion : JsString
  adopter : JsString
  kernelVersion : Option JsString
  generatedAt : Option JsString
  packs : List PackManifestNode
  digest : JsString

/-- The digest is over these members. -/
def PolicyManifest.base (manifest : PolicyManifest) : Props JsValue :=
  [(utf16 "manifestVersion", .str manifest.manifestVersion),
      (utf16 "adopter", .str manifest.adopter)] ++
    optionalProp "kernelVersion" (manifest.kernelVersion.map .str) ++
    [(utf16 "packs", .arr (manifest.packs.map fun node => node.toJs))]

def computeManifestDigest (host : Host) (manifest : PolicyManifest) : JsString :=
  host.sha256Hex ((stableStringify (.obj manifest.base)).getD [])

inductive DiffStatus where
  | added
  | removed
  | changed
deriving DecidableEq

structure PackDiff where
  packId : JsString
  status : DiffStatus
deriving DecidableEq

/-- This is an `IntentDiff` by kind or a `GuardDiff` by guard name. -/
structure NodeDiff where
  packId : JsString
  name : JsString
  status : DiffStatus
  changedFields : Option (List JsString)
deriving DecidableEq

structure UnguardedIntent where
  packId : JsString
  kind : JsString
deriving DecidableEq

structure ManifestDiff where
  identical : Bool
  packs : List PackDiff
  intents : List NodeDiff
  guards : List NodeDiff
  unguardedIntents : List UnguardedIntent

/-- A map keeps the place of the first entry of a name and the value of the last. -/
def nodeMap {N : Type} (nameOf : N → JsString) (nodes : List N) : Props N :=
  defineAll (nodes.map fun node => (nameOf node, node))

/-- A missing `__proto__` reads the prototype, whose text is that of an empty object; the other
inherited members are functions and have no text. -/
def memberText (props : Props JsValue) (key : JsString) : Option JsString :=
  match props.lookup key with
  | some value => stableStringify value
  | none => if key = protoKey then some (utf16 "\x7b\x7d") else none

def changedFields (a b : Props JsValue) : List JsString :=
  sortBy id ((keys a ++ keys b).eraseDups.filter fun key =>
    key ∉ digestExcludedKeys ∧ memberText a key ≠ memberText b key)

section

variable {keyName : JsString}

def diffNode (packId : JsString) (prevMap : Props (ManifestNode keyName))
    (entry : JsString × ManifestNode keyName) : Option NodeDiff :=
  match prevMap.lookup entry.1 with
  | none => some ⟨packId, entry.1, .added, none⟩
  | some prev =>
      let changed := changedFields prev.props entry.2.props
      if changed.length > 0 then some ⟨packId, entry.1, .changed, some changed⟩ else none

def diffNamed (packId : JsString) (prev next : List (ManifestNode keyName)) : List NodeDiff :=
  let prevMap := nodeMap ManifestNode.name prev
  let nextMap := nodeMap ManifestNode.name next
  ((keys prevMap).filter fun key => (nextMap.lookup key).isNone).map
      (fun key => ⟨packId, key, .removed, none⟩) ++
    nextMap.filterMap (diffNode packId prevMap)

end

def PackManifestNode.intentNodes (pack : PackManifestNode) : List (ManifestNode "kind") :=
  pack.intents.map IntentManifestNode.toManifestNode

def packMap (packs : List PackManifestNode) : Props PackManifestNode :=
  nodeMap (fun pack => pack.name) packs

def diffPack (prevPacks : Props PackManifestNode) (entry : JsString × PackManifestNode) :
    Option PackDiff :=
  match prevPacks.lookup entry.1 with
  | none => some ⟨entry.1, .added⟩
  | some prev =>
      if stableStringify prev.toJs ≠ stableStringify entry.2.toJs then some ⟨entry.1, .changed⟩
      else none

def diffPolicyManifests (previous next : PolicyManifest) : ManifestDiff :=
  let prevPacks := packMap previous.packs
  let nextPacks := packMap next.packs
  { identical := previous.digest = next.digest
    packs := ((keys prevPacks).filter fun id => (nextPacks.lookup id).isNone).map
        (fun id => ⟨id, .removed⟩) ++ nextPacks.filterMap (diffPack prevPacks)
    intents := nextPacks.flatMap fun entry => diffNamed entry.1
      (((prevPacks.lookup entry.1).map PackManifestNode.intentNodes).getD []) entry.2.intentNodes
    guards := nextPacks.flatMap fun entry => diffNamed entry.1
      (((prevPacks.lookup entry.1).map PackManifestNode.guards).getD []) entry.2.guards
    unguardedIntents := next.packs.flatMap fun pack =>
      (pack.intents.filter fun intent => intent.guardNames.length = 0).map fun intent =>
        ⟨pack.name, intent.name⟩ }

/-- This is the last entry with a name. -/
def lastNamed {keyName : JsString} (nodes : List (ManifestNode keyName)) (name : JsString) :
    Option (ManifestNode keyName) :=
  (nodes.filter (·.name = name)).getLast?

/-- The nodes have the same members up to the excluded ones. -/
def SameMembers (prev next : Props JsValue) : Prop :=
  ∀ key ∈ keys prev ++ keys next, key ∉ digestExcludedKeys →
    memberText prev key = memberText next key

/-- For every name, the last entries are both missing or have the same members. -/
def SameNamed {keyName : JsString} (prev next : List (ManifestNode keyName)) : Prop :=
  ∀ name, Option.Rel (fun before after => SameMembers before.props after.props)
    (lastNamed prev name) (lastNamed next name)

end Adjudicate.Analyze
