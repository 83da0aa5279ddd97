import IdentityForms.Schema.Basic

/-! The settings of a session. -/
namespace IdentityForms

/-- A message and how long it stays in view. -/
structure Notice where
  message : String
  millis : UInt64
  deriving DecidableEq

structure Settings where
  /-- The pause after which a search input is evaluated. -/
  searchPause : UInt64 := 500
  policy : Schema.Policy := .lenient
  onRejection : Notice := ⟨"Please fill out all required fields.", 4000⟩
  onAcceptance : Notice := ⟨"Form submitted successfully!", 3000⟩
  /-- The key of the chosen provider in submitted data. -/
  selectorKey : String := "selectedProvider"
  deriving DecidableEq

end IdentityForms
