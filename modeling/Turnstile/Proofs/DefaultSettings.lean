/-
# The settings without a user's

Where there is no user's file and none of the variables is set, the settings are the
packaged ones with the defaults of their variables (`Settings.load_of_untouched`). This
holds for every reader of YAML that reads these defaults as what they are
(`Settings.YamlReader.ReadsDefaults`), of which `Yaml.parse` is one. Of these settings
the limits of parsing are the standard ones, and the logger is one that leaves out all
that the command records.

Key definitions: `World.Untouched`, `Settings.YamlReader.ReadsDefaults`,
`Settings.default`.
Key theorems: `Settings.expandText_default`, `Settings.load_of_untouched`,
`Command.logger_default`.
-/
import Turnstile.Command
import Turnstile.Proofs.JsonValue
import Turnstile.Yaml.Read

namespace Turnstile

/-- There is no user's file of settings, and the variables that the packaged settings
name are not set. -/
structure World.Untouched (w : World) : Prop where
  noFile : Settings.userFile w = .ok none
  unset : ∀ name ∈ ["GENTZEN_MAX_LENGTH", "GENTZEN_MAX_DEPTH", "GENTZEN_LOG_LEVEL"],
    Entries.get? name w.env = none

namespace Settings

/-- What the packaged settings ask of a reader: that it reads the defaults of their
variables as the numbers and the word that they are. -/
structure YamlReader.ReadsDefaults (read : YamlReader) : Prop where
  length : read "10000" = .ok (.int 10000)
  depth : read "200" = .ok (.int 200)
  level : read "WARNING" = .ok (.text "WARNING")

theorem readsDefaults_parse : YamlReader.ReadsDefaults Yaml.parse := ⟨rfl, rfl, rfl⟩

/-- The settings that nobody has changed. -/
def default : Settings where
  sources := [.packaged]
  values := .ofFields
    [("parser", .ofFields [("max_length", .int 10000), ("max_depth", .int 200)]),
      ("logging", .ofFields
        [("level", .text "WARNING"),
          ("format", .text "%(asctime)s %(name)s %(levelname)s %(message)s")])]

section

variable {read : YamlReader} {env : List (String × String)} {text : String}

/-- A variable that is not set stands for its default. -/
theorem expandText_default (name fallback : String)
    (href : reference? (.ofString text) = some (.ofString name, .ofString fallback))
    (hunset : Entries.get? name env = none) :
    expandText read env (.ofString text) = readYaml read fallback := by
  have hvalue : variableValue env (.ofString name) = .ok none := by
    rw [variableValue, Points.string?_ofString]
    exact congrArg _ hunset
  rw [expandText, href]
  simp only [hvalue, Points.string?_ofString]
  rfl

theorem expand_default (name fallback : String) {d : Data}
    (href : reference? (.ofString text) = some (.ofString name, .ofString fallback))
    (hread : read fallback = .ok d) (hunset : Entries.get? name env = none) :
    expand read env (.text text) = .ok d := by
  rw [expand]
  rw [expandText_default name fallback href hunset, readYaml, hread]
  rfl

theorem expand_dict (entries : List (Key × Data)) :
    expand read env (.dict entries) = (expandEntries read env entries).map .dict := by
  rw [expand]
  cases expandEntries read env entries <;> rfl

/-- What names no variable stands for itself. -/
theorem expand_plain (h : reference? (.ofString text) = none) :
    expand read env (.text text) = .ok (.text text) := by
  rw [expand, expandText, h]
  simp only [Data.ofPoints, Points.string?_ofString]

end

theorem expand_packaged {read : YamlReader} (hread : read.ReadsDefaults) {w : World}
    (h : w.Untouched) : expand read w.env packaged = .ok default.values := by
  have hlength : expand read w.env (.text "$\x7bGENTZEN_MAX_LENGTH:10000\x7d") = .ok (.int 10000) :=
    expand_default "GENTZEN_MAX_LENGTH" "10000" (by decide +kernel) hread.length
      (h.unset _ (by simp))
  have hdepth : expand read w.env (.text "$\x7bGENTZEN_MAX_DEPTH:200\x7d") = .ok (.int 200) :=
    expand_default "GENTZEN_MAX_DEPTH" "200" (by decide +kernel) hread.depth (h.unset _ (by simp))
  have hlevel : expand read w.env (.text "$\x7bGENTZEN_LOG_LEVEL:WARNING\x7d") =
      .ok (.text "WARNING") :=
    expand_default "GENTZEN_LOG_LEVEL" "WARNING" (by decide +kernel) hread.level
      (h.unset _ (by simp))
  -- the style of log lines names no variable
  have hstyle : expand read w.env (.text "%(asctime)s %(name)s %(levelname)s %(message)s") =
      .ok (.text "%(asctime)s %(name)s %(levelname)s %(message)s") :=
    expand_plain (by decide +kernel)
  simp only [packaged, Data.ofFields, List.map_cons, List.map_nil, expand_dict, expandEntries,
    hlength, hdepth, hlevel, hstyle]
  rfl

/-- **Settings that nobody has changed are the default ones.** -/
theorem load_of_untouched {read : YamlReader} (hread : read.ReadsDefaults) {w : World}
    (h : w.Untouched) : load read w none = .ok default := by
  have hlayer : layer read w .packaged = .ok (default.values.entries?.getD []) := by
    rw [layer, expand_packaged hread h]
    rfl
  rw [load, h.noFile]
  simp only [bind, Except.bind, mergeLayers, hlayer]
  rfl

theorem limits_default : default.limits = .standard := rfl

end Settings

namespace Command

/-- The logger of the default settings. -/
theorem logger_default (time : String) : ∃ log, logger Settings.default false time = .ok log := by
  have hlevel : levelName Settings.default false = .ok (.ofString "WARNING") := by
    have hget : Settings.default.get? "logging.level" = some (.text "WARNING") := rfl
    have hupper : Text.upper (Data.text "WARNING").plain = .ofString "WARNING" := by decide +kernel
    simp only [levelName, hget, hupper]
    rfl
  have hstyle : style Settings.default =
      .ok (.ofString "%(asctime)s %(name)s %(levelname)s %(message)s") := by
    have hget : Settings.default.get? "logging.format" =
      some (.text "%(asctime)s %(name)s %(levelname)s %(message)s") := rfl
    have hvalid : Template.isValid
      (.ofString "%(asctime)s %(name)s %(levelname)s %(message)s") = true := by decide +kernel
    simp only [style, hget, hvalid]
    rfl
  have hthreshold : LogLevel.threshold? "WARNING" = some 30 := by decide +kernel
  refine ⟨⟨30, .ofString "%(asctime)s %(name)s %(levelname)s %(message)s", time⟩, ?_⟩
  rw [logger, hlevel, hstyle]
  simp only [bind, Except.bind, Points.string?_ofString, Option.bind_some, hthreshold]
  rfl

end Command

end Turnstile
