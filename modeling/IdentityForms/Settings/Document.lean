import IdentityForms.Json.Record
import IdentityForms.Settings.Basic

/-! Settings read from JSON texts. A setting that is left out keeps its default. -/
namespace IdentityForms

open Json (Reader Record fitting choice natural? string?)

def Schema.Policy.ofName? (name : String) : Option Schema.Policy :=
  if name = "strict" then some strict else if name = "lenient" then some lenient else none

/-- A notice has both its parts, whichever way it is written. -/
def Notice.record : Record Notice where
  initial := ⟨"", 0⟩
  members := [
    ⟨"message", Reader.map (fun message notice => { notice with message }) (fitting string?)⟩,
    ⟨"duration_ms", Reader.map (fun millis notice => { notice with millis }) (fitting natural?)⟩]
  needsAll := true

namespace Settings

def record : Record Settings where
  initial := {}
  members := [
    ⟨"search_debounce_ms",
      Reader.map (fun searchPause settings => { settings with searchPause }) (fitting natural?)⟩,
    ⟨"schema_policy",
      Reader.map (fun policy settings => { settings with policy }) (choice Schema.Policy.ofName?)⟩,
    ⟨"rejection_notice",
      Reader.map (fun onRejection settings => { settings with onRejection }) Notice.record.read⟩,
    ⟨"acceptance_notice",
      Reader.map (fun onAcceptance settings => { settings with onAcceptance }) Notice.record.read⟩,
    ⟨"provider_selector_label",
      Reader.map (fun selectorKey settings => { settings with selectorKey }) (fitting string?)⟩]
  needsAll := false

def ofText (text : String) : Except Json.Fault Settings := record.read.run text

end Settings

end IdentityForms
