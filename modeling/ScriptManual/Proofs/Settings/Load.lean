import ScriptManual.Proofs.Path.Resolve
import ScriptManual.Settings.Load

/-!
This module contains what loading settings comes to. What is loaded has a marker that can be seen, and
what fails for another reason than the settings is no text or beyond a limit, or is a file that the
system was not asked for.
-/

namespace ScriptManual

namespace Settings

theorem isVisible_iff {marker : WideText} :
    isVisible marker = true ↔
      marker ≠ [] ∧ ∀ c, CodePoint.char c ∈ marker → Text.isBlank c = false := by
  have hany : marker.any CodePoint.isBlank = false ↔
      ∀ c, CodePoint.char c ∈ marker → Text.isBlank c = false := by
    rw [List.any_eq_false]
    constructor
    . intro h c hc
      simpa [CodePoint.isBlank, CodePoint.toChar?] using h _ hc
    . intro h p hp
      cases p with
      | char c => simpa [CodePoint.isBlank, CodePoint.toChar?] using h c hp
      | surrogate offset => simp [CodePoint.isBlank, CodePoint.toChar?]
  simp [isVisible, ← hany]

theorem isVisible_of_checkMarker {marker marker' : WideText}
    (h : checkMarker marker = .ok marker') : isVisible marker' = true := by
  unfold checkMarker at h
  split at h
  . next hv => exact Except.ok.inj h ▸ hv
  . contradiction

variable {v : Validation}

theorem isVisible_of_validate [LawfulValidation v] {value : Json} {s : Settings}
    (h : v.validate declaration value = .ok s) : isVisible s.marker = true := by
  obtain hs | ⟨marker, hs⟩ := LawfulValidation.marker_of_validate h
  . rw [hs]
    rfl
  . exact isVisible_of_checkMarker hs

theorem isVisible_of_load [LawfulValidation v] {path : Path} {contents : Except OsError (List UInt8)}
    {s : Settings} (h : load v path contents = .ok s) : isVisible s.marker = true := by
  obtain ⟨bytes, -, h⟩ := exists_of_bind_eq_ok h
  obtain ⟨text, -, h⟩ := exists_of_bind_eq_ok h
  obtain ⟨value, -, h⟩ := exists_of_bind_eq_ok h
  exact isVisible_of_validate (eq_ok_of_mapError h)

/--
Whether the contents of a file break the loading of settings: they are no text or one that goes beyond
a limit, or the system was not asked for the file.
-/
def Breaks (contents : Except OsError (List UInt8)) : LoadError → Prop
  | .refused _ => False
  | .unasked e => contents = .error e ∧ e.isFromSystem = false
  | .undecodable fault => ∃ bytes, contents = .ok bytes ∧ Text.Utf8.decode bytes = .error fault
  | .limit l => ∃ bytes text, contents = .ok bytes ∧ Text.Utf8.decode bytes = .ok text ∧
    Json.ofText (Text.unifyNewlines text) = .error (.limit l)

theorem load_of_breaks (v : Validation) (path : Path) {contents : Except OsError (List UInt8)}
    {e : LoadError} (h : Breaks contents e) : load v path contents = .error e := by
  cases e with
  | refused e => contradiction
  | unasked e =>
    obtain ⟨rfl, he⟩ := h
    change Except.error (if e.isFromSystem then _ else _) = _
    rw [he]
    rfl
  | undecodable fault =>
    obtain ⟨bytes, rfl, hf⟩ := h
    change (Text.Utf8.decode bytes).mapError _ >>= _ = _
    rw [hf]
    rfl
  | limit l =>
    obtain ⟨bytes, text, rfl, ht, hl⟩ := h
    change (Text.Utf8.decode bytes).mapError _ >>= _ = _
    rw [ht]
    change (Json.ofText (Text.unifyNewlines text)).mapError _ >>= _ = _
    rw [hl]
    rfl

theorem refused_or_breaks_of_load {path : Path} {contents : Except OsError (List UInt8)}
    {e : LoadError} (h : load v path contents = .error e) :
    (∃ e', e = .refused e') ∨ Breaks contents e := by
  obtain h | ⟨bytes, hb, h⟩ := bind_eq_error_cases h
  . obtain ⟨e', he, rfl⟩ := exists_of_mapError_eq_error h
    split
    . exact .inl ⟨_, rfl⟩
    . next hs => exact .inr ⟨he, by simpa using hs⟩
  have hb := eq_ok_of_mapError hb
  obtain h | ⟨text, ht, h⟩ := bind_eq_error_cases h
  . obtain ⟨fault, hf, rfl⟩ := exists_of_mapError_eq_error h
    exact .inr ⟨bytes, hb, hf⟩
  have ht := eq_ok_of_mapError ht
  obtain h | ⟨value, -, h⟩ := bind_eq_error_cases h
  . obtain ⟨fault, hf, rfl⟩ := exists_of_mapError_eq_error h
    cases fault with
    | limit l => exact .inr ⟨bytes, text, hb, ht, hf⟩
    | _ => exact .inl ⟨_, rfl⟩
  . obtain ⟨_, -, rfl⟩ := exists_of_mapError_eq_error h
    exact .inl ⟨_, rfl⟩

end Settings

end ScriptManual
