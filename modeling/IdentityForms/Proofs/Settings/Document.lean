import IdentityForms.Proofs.Json.Repeats
import IdentityForms.Settings.Document

/-! Settings are read to what their texts say. What a text leaves out has its default, and what it
says twice is refused. -/
namespace IdentityForms

open Json (Covers Refuses Orderly Padded ScalarText StringText SelectionText natural? string?
  orderly_fitting orderly_choice)

namespace Json

variable {text : List Char}

def MillisText (millis : UInt64) : List Char → Prop :=
  ScalarText (.number (.integer millis.toNat))

theorem exists_millisText (millis : UInt64) : ∃ text, MillisText millis text :=
  ⟨_, .number _ _ (.integer _ (by omega) (by exact_mod_cast millis.toNat_lt))⟩

theorem exists_scalarText_string (value : String) : ∃ text, ScalarText (.string value) text := by
  obtain ⟨text, htext⟩ := exists_stringText value
  exact ⟨text, .string value text htext⟩

theorem covers_millis {millis : UInt64} (h : Padded (MillisText millis) text) :
    Covers (fitting natural?) millis text := by
  refine covers_fitting ?_ h
  have hsize : (millis.toNat : Int).toNat < UInt64.size := millis.toNat_lt
  simp only [natural?]
  rw [if_pos ⟨by omega, hsize⟩]
  simp

theorem covers_string {value : String} (h : Padded (ScalarText (.string value)) text) :
    Covers (fitting string?) value text :=
  covers_fitting rfl h

end Json

namespace Notice

inductive Part where
  | message
  | millis
  deriving DecidableEq

def Part.key : Part → String
  | message => "message"
  | millis => "duration_ms"

def Part.all : List Part := [message, millis]

/-- Whether a text is that of a notice in which a key comes twice. -/
def Repeats : List Char → Prop := Json.Repeats (Part.all.map Part.key) fun _ _ => False

variable (notice : Notice) {text : List Char}

def PartText : Part → List Char → Prop
  | .message => ScalarText (.string notice.message)
  | .millis => Json.MillisText notice.millis

def put : Part → Notice → Notice
  | .message, other => { other with message := notice.message }
  | .millis, other => { other with millis := notice.millis }

/-- A notice has both its parts, in an object in any order. -/
def Text (text : List Char) : Prop :=
  ∃ known, (∀ part, part ∈ known) ∧ SelectionText Part.all Part.key notice.PartText known text

variable {notice} in
theorem Text.starts (h : notice.Text text) : Json.Starts text := by
  obtain ⟨known, -, htext⟩ := h
  exact htext.starts

theorem exists_text : ∃ text, notice.Text text := by
  have hvalue (part : Part) : ∃ text, notice.PartText part text := by
    cases part with
    | message => exact Json.exists_scalarText_string notice.message
    | millis => exact Json.exists_millisText notice.millis
  obtain ⟨text, htext⟩ := Json.exists_selectionText Part.all Part.key hvalue
    (show [Part.message, Part.millis].Nodup by decide)
  exact ⟨text, _, fun part => by cases part <;> decide, htext⟩

theorem serves : record.Serves Part.all Part.key notice.PartText notice.put where
  complete part := by cases part <;> decide
  distinct := by decide
  starts part text h := by cases part <;> exact (ScalarText.shape h).startsScalar.starts
  members := .cons ⟨rfl, fun _ h => (Json.covers_string h).map _⟩ <|
    .cons ⟨rfl, fun _ h => (Json.covers_millis h).map _⟩ .nil

theorem foldl_put (known : List Part) (other : Notice) :
    known.foldl (fun other part => notice.put part other) other =
      ⟨if .message ∈ known then notice.message else other.message,
        if .millis ∈ known then notice.millis else other.millis⟩ := by
  induction known generalizing other with
  | nil => simp
  | cons part known ih =>
    rw [List.foldl_cons, ih]
    cases part <;> simp [put]

theorem covers_read (h : Padded notice.Text text) : Covers record.read notice text := by
  obtain ⟨before, inner, after, hbefore, ⟨known, hall, hinner⟩, hafter, rfl⟩ := h
  have hread := notice.serves.covers_read (fun _ => hall)
    ⟨before, inner, after, hbefore, hinner, hafter, rfl⟩
  rwa [notice.foldl_put, if_pos (hall .message), if_pos (hall .millis)] at hread

theorem orderly_members : ∀ member ∈ record.members, Orderly member.change := by
  simp only [record, List.forall_mem_cons]
  exact ⟨(orderly_fitting _).map _, (orderly_fitting _).map _, by simp⟩

theorem refuses_read (h : Padded Repeats text) : Refuses record.read text := by
  refine Json.Record.refuses_read orderly_members ?_ h
  rintro _ - _ ⟨_, _, _, -, hfalse, -⟩
  exact hfalse.elim

end Notice

def Schema.Policy.name : Policy → String
  | strict => "strict"
  | lenient => "lenient"

theorem Schema.Policy.ofName?_name (policy : Policy) : ofName? policy.name = some policy := by
  cases policy <;> rfl

namespace Settings

inductive Part where
  | searchPause
  | policy
  | onRejection
  | onAcceptance
  | selectorKey
  deriving DecidableEq

def Part.key : Part → String
  | searchPause => "search_debounce_ms"
  | policy => "schema_policy"
  | onRejection => "rejection_notice"
  | onAcceptance => "acceptance_notice"
  | selectorKey => "provider_selector_label"

def Part.all : List Part := [searchPause, policy, onRejection, onAcceptance, selectorKey]

/-- Whether a text is that of settings in which a key comes twice, or that of one of the notices. -/
def Repeats : List Char → Prop :=
  Json.Repeats (Part.all.map Part.key) fun name text =>
    name ∈ [Part.onRejection.key, Part.onAcceptance.key] ∧ Notice.Repeats text

variable (settings : Settings) {text : List Char}

def PartText : Part → List Char → Prop
  | .searchPause => Json.MillisText settings.searchPause
  | .policy => StringText settings.policy.name
  | .onRejection => settings.onRejection.Text
  | .onAcceptance => settings.onAcceptance.Text
  | .selectorKey => ScalarText (.string settings.selectorKey)

/-- The settings of which the known parts are written, and no others. -/
def Text (known : List Part) : List Char → Prop :=
  SelectionText Part.all Part.key settings.PartText known

def put : Part → Settings → Settings
  | .searchPause, other => { other with searchPause := settings.searchPause }
  | .policy, other => { other with policy := settings.policy }
  | .onRejection, other => { other with onRejection := settings.onRejection }
  | .onAcceptance, other => { other with onAcceptance := settings.onAcceptance }
  | .selectorKey, other => { other with selectorKey := settings.selectorKey }

/-- The settings with the known parts as they are and the others as in `other`. -/
def keeping (known : List Part) (other : Settings) : Settings where
  searchPause := if .searchPause ∈ known then settings.searchPause else other.searchPause
  policy := if .policy ∈ known then settings.policy else other.policy
  onRejection := if .onRejection ∈ known then settings.onRejection else other.onRejection
  onAcceptance := if .onAcceptance ∈ known then settings.onAcceptance else other.onAcceptance
  selectorKey := if .selectorKey ∈ known then settings.selectorKey else other.selectorKey

theorem serves : record.Serves Part.all Part.key settings.PartText settings.put where
  complete part := by cases part <;> decide
  distinct := by decide
  starts part text h := by
    cases part with
    | searchPause => exact (ScalarText.shape h).startsScalar.starts
    | policy => exact StringText.starts h
    | onRejection => exact Notice.Text.starts h
    | onAcceptance => exact Notice.Text.starts h
    | selectorKey => exact (ScalarText.shape h).startsScalar.starts
  members := .cons ⟨rfl, fun _ h => (Json.covers_millis h).map _⟩ <|
    .cons ⟨rfl, fun _ h => (Json.covers_choice settings.policy.ofName?_name h).map _⟩ <|
    .cons ⟨rfl, fun _ h => (settings.onRejection.covers_read h).map _⟩ <|
    .cons ⟨rfl, fun _ h => (settings.onAcceptance.covers_read h).map _⟩ <|
    .cons ⟨rfl, fun _ h => (Json.covers_string h).map _⟩ .nil

theorem foldl_put (known : List Part) (other : Settings) :
    known.foldl (fun other part => settings.put part other) other =
      settings.keeping known other := by
  induction known generalizing other with
  | nil => simp [keeping]
  | cons part known ih =>
    rw [List.foldl_cons, ih]
    cases part <;> simp [keeping, put]

theorem orderly_members : ∀ member ∈ record.members, Orderly member.change := by
  have hnotice : Orderly Notice.record.read := Json.Record.orderly_read Notice.orderly_members
  simp only [record, List.forall_mem_cons]
  exact ⟨(orderly_fitting _).map _, (orderly_choice _).map _, hnotice.map _, hnotice.map _,
    (orderly_fitting _).map _, by simp⟩

theorem refuses_read (h : Padded Repeats text) : Refuses record.read text := by
  refine Json.Record.refuses_read orderly_members ?_ h
  rintro member hmem text ⟨before, inner, after, hbefore, ⟨hname, hinner⟩, hafter, rfl⟩
  have hnotice : Refuses Notice.record.read (before ++ (inner ++ after)) :=
    Notice.refuses_read ⟨before, inner, after, hbefore, hinner, hafter, rfl⟩
  simp only [record, List.mem_cons, List.not_mem_nil, or_false] at hmem
  rcases hmem with rfl | rfl | rfl | rfl | rfl
  · simp [Part.key] at hname
  · simp [Part.key] at hname
  · exact Json.Ensures.map hnotice fun _ => False.elim
  · exact Json.Ensures.map hnotice fun _ => False.elim
  · simp [Part.key] at hname

theorem exists_text {known : List Part} (hdistinct : known.Nodup) :
    ∃ text : String, settings.Text known text.toList := by
  have hvalue (part : Part) : ∃ text, settings.PartText part text := by
    cases part with
    | searchPause => exact Json.exists_millisText settings.searchPause
    | policy => exact Json.exists_stringText settings.policy.name
    | onRejection => exact settings.onRejection.exists_text
    | onAcceptance => exact settings.onAcceptance.exists_text
    | selectorKey => exact Json.exists_scalarText_string settings.selectorKey
  obtain ⟨text, htext⟩ := Json.exists_selectionText Part.all Part.key hvalue hdistinct
  exact ⟨String.ofList text, by rwa [Text, String.toList_ofList]⟩

/-- Settings are read to what any of their texts says, with the default for whatever it leaves out,
and from no text that says something twice. -/
theorem documents_decode (settings : Settings) :
    (∀ known text, Padded (settings.Text known) text.toList →
      ofText text = .ok (settings.keeping known {})) ∧
    (∀ known, (∀ part, part ∈ known) → settings.keeping known {} = settings) ∧
    (∀ known, known.Nodup → ∃ text : String, settings.Text known text.toList) ∧
    ∀ text, Padded Repeats text.toList → ∃ fault, ofText text = .error fault := by
  refine ⟨fun known text htext => ?_, fun known hall => ?_, fun known hdistinct => ?_,
    fun text htext => ?_⟩
  · have hread := settings.serves.covers_read nofun htext
    rw [settings.foldl_put] at hread
    exact hread.run
  · simp [keeping, hall]
  · exact settings.exists_text hdistinct
  · exact (refuses_read htext).run

def brief : Settings := { policy := .strict, onAcceptance := ⟨"", 5⟩ }

/-- The notice is an array, and the first member is passed over, whose number is too large. -/
def briefText : String :=
  "\x7b\"x\":[1e999],\"acceptance_notice\":[\"\",5],\"schema_policy\":\"strict\"\x7d"

theorem text_brief : brief.Text [.onAcceptance, .policy] briefText.toList := by
  have hlarge : Json.NumeralText ⟨false, ['1'], [], some 999⟩ ['1', 'e', '9', '9', '9'] :=
    .unsigned _ rfl ⟨⟨by simp, by simp⟩, by simp, [], _, .absent,
      .unsigned 'e' ['9', '9', '9'] (.inl rfl) ⟨by simp, by simp⟩, rfl⟩
  have hother : Json.ValueShape 1 _ :=
    .array [_] _ (List.forall_mem_singleton.mpr (.number _ _ hlarge)) (Json.arrayOf_joined _)
  have hnotice : brief.onAcceptance.Text _ := ⟨Notice.Part.all.take 2,
    fun part => by cases part <;> decide,
    .array 2 _ _ (.cons (.string "" _ (Json.stringText_of_plain (by decide))) (.cons
      (.number _ _ (.integer 5 (by decide) (by decide))) .nil)) (Json.arrayOf_joined _)⟩
  have hparts : List.Forall₂ (Json.PartText Part.key brief.PartText)
      [none, some .onAcceptance, some .policy] _ :=
    .cons (.other "x" 1 (_, _) (fun part => by cases part <;> decide)
      (Json.stringText_of_plain (by decide)) hother) (.cons
        (.known Part.onAcceptance (_, _) (Json.stringText_of_plain (by decide)) hnotice) (.cons
          (.known Part.policy (_, _) (Json.stringText_of_plain (by decide))
            (Json.stringText_of_plain (by decide))) .nil))
  have hobject : brief.Text [.onAcceptance, .policy] _ :=
    .object _ _ _ hparts (by decide) (Json.objectOf_joined _)
  convert hobject using 1
  decide +kernel

def doubledText : String := "\x7b\"schema_policy\":null,\"schema_policy\":\"strict\"\x7d"

theorem repeats_doubled : Repeats doubledText.toList := by
  have hkey : StringText Part.policy.key _ := Json.stringText_of_plain (by decide)
  have hstrict : StringText "strict" _ := Json.stringText_of_plain (by decide)
  have htwice : Repeats _ := .twice 0 [(_, ['n', 'u', 'l', 'l']), (_, _)] _ _ _ _
    ⟨by simpa using hkey.shape, by simpa using ⟨.null, .string _ hstrict.shape⟩⟩
    (Json.objectOf_joined _) (by decide) (List.Sublist.refl _) hkey hkey
  convert htwice using 1
  decide +kernel

/-- What is read of the text leaves the pause and the other notice at their defaults. -/
theorem documents_decode_brief :
    ofText briefText = .ok brief ∧ ∃ fault, ofText doubledText = .error fault := by
  obtain ⟨hread, -, -, hrefused⟩ := documents_decode brief
  have hbrief := hread _ _ (Json.padded_self text_brief)
  exact ⟨hbrief, hrefused _ (Json.padded_self repeats_doubled)⟩

end Settings

end IdentityForms
