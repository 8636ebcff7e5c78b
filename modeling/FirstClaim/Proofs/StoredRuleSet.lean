import FirstClaim.Proofs.Json.Records
import FirstClaim.Proofs.Timestamp
import FirstClaim.Store

/-!
# Stored rule sets in files

A stored rule set reads back from its text as it was (`StoredRuleSet.parse_render`): the rule set,
the time of its saving and the fingerprint. So a store loads what the file of a name holds
(`Store.load_stored`).
-/

set_option autoImplicit false

namespace FirstClaim

open Json

namespace StoredRuleSet

theorem reads_timestamp (t : Timestamp) : Reads readTimestamp (stringText (t.text "Z")) t := by
  have htext := reads_text "an RFC 3339 formatted date and time string" (t.text "Z")
  refine ⟨htext.opens, fun w rest place hw => ?_⟩
  obtain ⟨place', hread⟩ := htext.reads w rest place hw
  refine ⟨place', ?_⟩
  unfold readTimestamp
  simp only [hread, bind, Except.bind, Timestamp.parse_text]

theorem fills (s : StoredRuleSet) {text : List Char} (hconfig : Reads Config.read text s.config) :
    ∃ seen, form.missing? seen = none ∧
      Fills Reads form [] form.start [("config", text),
        ("saved_at", stringText (s.savedAt.text "Z")), ("fingerprint", stringText s.fingerprint)]
        seen s := by
  obtain ⟨config, savedAt, fingerprint⟩ := s
  have hfirst := hconfig.map fun v => StoredRuleSet.mk v epoch ""
  have hsaved := (reads_timestamp savedAt).map fun v => StoredRuleSet.mk config v ""
  have hlast := (Json.written.text fingerprint).map fun v => StoredRuleSet.mk config savedAt v
  exact ⟨["fingerprint", "saved_at", "config"], rfl, .member rfl rfl hfirst
    (.member rfl rfl hsaved (.member rfl rfl hlast (.nil _ _)))⟩

/-- **A stored rule set reads back as it was written.** -/
theorem parse_render (s : StoredRuleSet) : parse s.render = .ok s := by
  obtain ⟨seen, hmissing, hfills⟩ := s.fills (s.config.reads_pretty 1)
  have hreads := reads_record hfills hmissing blank_space (blank_newLine 1) (blank_newLine 0)
  have htext : Value.prettyText 0 (.object [("config", s.config.toValue),
      ("saved_at", .string (s.savedAt.text "Z")), ("fingerprint", .string s.fingerprint)]) =
        enclosed '{' '}' (Value.newLine 1) (Value.newLine 0)
          ([("config", Value.prettyText 1 s.config.toValue),
            ("saved_at", stringText (s.savedAt.text "Z")),
            ("fingerprint", stringText s.fingerprint)].map (memberText [' '])) := by
    rw [Value.prettyText, Value.block_eq_enclosed, Value.prettyMembers_eq_map]
    simp only [List.map_cons, List.map_nil, memberText, Value.prettyText]
  rw [render, Value.pretty, htext]
  exact hreads.parse

theorem isIntact_ofConfig (config : Config) (now : Timestamp) :
    (ofConfig config now).isIntact = true :=
  beq_self_eq_true _

end StoredRuleSet

/-- A store loads the rule set that the file of a name holds. -/
theorem Store.load_stored {s : Store} {files : FileTree} {name : String} {stored : StoredRuleSet}
    (hname : isStoreName name = true) (hcontains : files.contains (s.path name) = true)
    (htext : files.readText (s.path name) = .ok stored.render) :
    s.load files name = .ok (some stored) := by
  have hcheck : checkName name = .ok () := if_pos hname
  unfold Store.load
  rw [hcheck]
  simp only [bind, Except.bind, hcontains, if_true, htext]
  exact congrArg (some <$> Except.mapError StoreError.json ·) stored.parse_render

end FirstClaim
