import FramedExchange.Configuration
import Mathlib.Algebra.Order.Ring.Nat

/-!
# Which place a setting comes from

A setting may be given on the command line and in the settings file, and it has a default. What the
command line gives goes before what the file gives, and that before the default (`Precedence`). A
file that is not there is one that gives nothing (`SettingsFile.ofEntries?_nil`).

All settings that may be given in both places follow this order but the log level
(`Configuration.IsLayered`). On the command line the default level is not told from none at all, so
the file goes before it (`Configuration.logLevel_eq_iff`).
-/

namespace FramedExchange

open Toml

/-! ### Three places -/

/-- A setting has the value that the command line gives, or else the one that is read from what the
file gives, or else the default. -/
inductive Precedence {α : Type} (line? : Option α) (read? : Value → Option α)
    (file? : Option Value) (default : α) : α → Prop
  | line {value : α} (hline : line? = some value) : Precedence line? read? file? default value
  | file {value : α} {given : Value} (hline : line? = none) (hfile : file? = some given)
      (hread : read? given = some value) : Precedence line? read? file? default value
  | default (hline : line? = none) (hfile : file? = none) :
      Precedence line? read? file? default default

namespace SettingsFile

/-- The settings of the section `server`, in their order. -/
def serverNames : List String := ["listen", "convention", "keep_alive", "max_connections"]

/-- The settings of the section `timeouts`, in their order. -/
def timeoutNames : List String := ["read_ms", "write_ms", "idle_ms"]

/-- The settings of the section `buffers`, in their order. -/
def bufferNames : List String := ["size", "pool_capacity"]

/-- The settings of the section `logging`, in their order. -/
def loggingNames : List String := ["level"]

/-- The value that a file gives for a setting, by its section and its place there. -/
def given? (file : Entries) (name : String) (settings : List String) (place : Nat) : Option Value :=
  (sectionOf file name settings).bind fun values ↦ values[place]?.join

theorem given?_of_sectionOf {file : Entries} {name : String} {settings : List String}
    {values : List (Option Value)} (h : sectionOf file name settings = some values) (place : Nat) :
    given? file name settings place = values[place]?.join := by
  rw [given?, h]
  rfl

/-- **A setting of the file** is what the file gives, or else the default. -/
theorem precedence_of_setting {α : Type} {read? : Value → Option α} {default value : α}
    {values : List (Option Value)} {place : Nat}
    (h : setting read? default values place = some value) :
    Precedence none read? values[place]?.join default value := by
  rw [setting] at h
  split at h
  · rename_i hsilent
    cases h
    exact .default rfl hsilent
  · rename_i given hgiven
    exact .file rfl hgiven h

/-- What a settings file sets comes from its entries or from the defaults. -/
structure IsLayered (entries : Entries) (file : SettingsFile) : Prop where
  listen : Precedence none text? (given? entries "server" serverNames 0) default.listen file.listen
  convention : Precedence none convention? (given? entries "server" serverNames 1)
    default.convention file.convention
  keepAlive : Precedence none boolean? (given? entries "server" serverNames 2)
    default.keepAlive file.keepAlive
  maxConnections : Precedence none natural? (given? entries "server" serverNames 3)
    default.maxConnections file.maxConnections
  readTimeout : Precedence none natural? (given? entries "timeouts" timeoutNames 0)
    default.readTimeout file.readTimeout
  writeTimeout : Precedence none natural? (given? entries "timeouts" timeoutNames 1)
    default.writeTimeout file.writeTimeout
  idleTimeout : Precedence none natural? (given? entries "timeouts" timeoutNames 2)
    default.idleTimeout file.idleTimeout
  bufferSize : Precedence none natural? (given? entries "buffers" bufferNames 0)
    default.bufferSize file.bufferSize
  poolCapacity : Precedence none natural? (given? entries "buffers" bufferNames 1)
    default.poolCapacity file.poolCapacity
  logLevel : Precedence none text? (given? entries "logging" loggingNames 0)
    default.logLevel file.logLevel

theorem isLayered_of_ofEntries? {entries : Entries} {file : SettingsFile}
    (h : ofEntries? entries = some file) : file.IsLayered entries := by
  rw [ofEntries?] at h
  obtain ⟨server, hserver, h⟩ := Option.bind_eq_some_iff.1 h
  obtain ⟨timeouts, htimeouts, h⟩ := Option.bind_eq_some_iff.1 h
  obtain ⟨buffers, hbuffers, h⟩ := Option.bind_eq_some_iff.1 h
  obtain ⟨logging, hlogging, h⟩ := Option.bind_eq_some_iff.1 h
  obtain ⟨listen, hlisten, h⟩ := Option.bind_eq_some_iff.1 h
  obtain ⟨convention, hconvention, h⟩ := Option.bind_eq_some_iff.1 h
  obtain ⟨keepAlive, hkeepAlive, h⟩ := Option.bind_eq_some_iff.1 h
  obtain ⟨maxConnections, hmaxConnections, h⟩ := Option.bind_eq_some_iff.1 h
  obtain ⟨readTimeout, hreadTimeout, h⟩ := Option.bind_eq_some_iff.1 h
  obtain ⟨writeTimeout, hwriteTimeout, h⟩ := Option.bind_eq_some_iff.1 h
  obtain ⟨idleTimeout, hidleTimeout, h⟩ := Option.bind_eq_some_iff.1 h
  obtain ⟨bufferSize, hbufferSize, h⟩ := Option.bind_eq_some_iff.1 h
  obtain ⟨poolCapacity, hpoolCapacity, h⟩ := Option.bind_eq_some_iff.1 h
  obtain ⟨logLevel, hlogLevel, h⟩ := Option.bind_eq_some_iff.1 h
  cases h
  have hgiven {name : String} {names : List String} {values : List (Option Value)}
      (hvalues : sectionOf entries name names = some values) {α : Type} {read? : Value → Option α}
      {default value : α} {place : Nat}
      (hsetting : setting read? default values place = some value) :
      Precedence none read? (given? entries name names place) default value := by
    rw [given?_of_sectionOf hvalues]
    exact precedence_of_setting hsetting
  exact ⟨hgiven hserver hlisten, hgiven hserver hconvention, hgiven hserver hkeepAlive,
    hgiven hserver hmaxConnections, hgiven htimeouts hreadTimeout, hgiven htimeouts hwriteTimeout,
    hgiven htimeouts hidleTimeout, hgiven hbuffers hbufferSize, hgiven hbuffers hpoolCapacity,
    hgiven hlogging hlogLevel⟩

/-- A file that gives nothing sets the defaults. -/
theorem ofEntries?_nil : ofEntries? [] = some default := rfl

end SettingsFile

/-- What the command line gives goes before what the file sets. -/
theorem Precedence.getD {α : Type} {line? : Option α} {read? : Value → Option α}
    {file? : Option Value} {default value : α} (h : Precedence none read? file? default value) :
    Precedence line? read? file? default (line?.getD value) := by
  cases line? with
  | some given => exact .line rfl
  | none => exact h

/-! ### Configurations -/

namespace Configuration

open SettingsFile

variable {contentsAt : String → Except IoError Bytes} {line : CommandLine} {file : SettingsFile}
variable {configuration : Configuration}

/-- The entries of the settings file that the command line names. There are none without a file. -/
inductive Opens (contentsAt : String → Except IoError Bytes) (line : CommandLine) : Entries → Prop
  | silent (hline : line.file? = none) : Opens contentsAt line []
  | file {path text : String} {bytes : Bytes} {entries : Entries} (hline : line.file? = some path)
      (hcontents : contentsAt path = .ok bytes) (htext : Bytes.toString? bytes = some text)
      (hentries : Document.parse? text = some entries) : Opens contentsAt line entries

theorem exists_opens_of_fileOf (h : fileOf contentsAt line = .ok file) :
    ∃ entries, Opens contentsAt line entries ∧ ofEntries? entries = some file := by
  rw [fileOf] at h
  split at h
  · rename_i hline
    cases h
    exact ⟨[], .silent hline, ofEntries?_nil⟩
  · rename_i path hline
    split at h
    · cases h
    · rename_i bytes hcontents
      split at h
      · cases h
      · rename_i text htext
        split at h
        · cases h
        · rename_i found hparse
          cases h
          obtain ⟨entries, hentries, hfound⟩ := Option.bind_eq_some_iff.1 hparse
          exact ⟨entries, .file hline hcontents htext hentries, hfound⟩

theorem merge_eq_ok (h : merge line file = .ok configuration) :
    ∃ address, SocketAddress.parse? (line.listen?.getD file.listen) = some address ∧
      configuration = {
        listen := address
        convention := line.convention?.getD file.convention
        readTimeout := line.readTimeout?.getD file.readTimeout
        writeTimeout := line.writeTimeout?.getD file.writeTimeout
        idleTimeout := line.idleTimeout?.getD file.idleTimeout
        keepAlive := !line.noKeepAlive && file.keepAlive
        maxConnections := line.maxConnections?.getD file.maxConnections
        bufferSize := file.bufferSize
        poolCapacity := file.poolCapacity
        logLevel := logLevelOf line file } := by
  unfold merge at h
  extract_lets listen maxConnections at h
  split at h
  · cases h
  · rename_i address haddress
    refine ⟨address, haddress, ?_⟩
    split at h
    · cases h
    · split at h
      · cases h
      · split at h
        · cases h
        · split at h
          · cases h
          · cases h
            rfl

/-- Where each setting of a configuration comes from. -/
structure IsLayered (line : CommandLine) (entries : Entries) (configuration : Configuration) :
    Prop where
  listen : ∃ text, Precedence line.listen? text? (given? entries "server" serverNames 0)
    SettingsFile.default.listen text ∧ SocketAddress.parse? text = some configuration.listen
  convention : Precedence line.convention? convention? (given? entries "server" serverNames 1)
    SettingsFile.default.convention configuration.convention
  readTimeout : Precedence line.readTimeout? natural? (given? entries "timeouts" timeoutNames 0)
    SettingsFile.default.readTimeout configuration.readTimeout
  writeTimeout : Precedence line.writeTimeout? natural? (given? entries "timeouts" timeoutNames 1)
    SettingsFile.default.writeTimeout configuration.writeTimeout
  idleTimeout : Precedence line.idleTimeout? natural? (given? entries "timeouts" timeoutNames 2)
    SettingsFile.default.idleTimeout configuration.idleTimeout
  maxConnections : Precedence line.maxConnections? natural?
    (given? entries "server" serverNames 3) SettingsFile.default.maxConnections
    configuration.maxConnections
  /-- The default level on the command line counts as none. -/
  logLevel : Precedence (line.logLevel?.filter (· ≠ defaultLogLevel)) text?
    (given? entries "logging" loggingNames 0) SettingsFile.default.logLevel configuration.logLevel
  /-- Keep-alive is on unless it is switched off in either place. -/
  keepAlive : ∃ inFile, Precedence none boolean? (given? entries "server" serverNames 2)
    SettingsFile.default.keepAlive inFile ∧
    (configuration.keepAlive = true ↔ line.noKeepAlive = false ∧ inFile = true)
  bufferSize : Precedence none natural? (given? entries "buffers" bufferNames 0)
    SettingsFile.default.bufferSize configuration.bufferSize
  poolCapacity : Precedence none natural? (given? entries "buffers" bufferNames 1)
    SettingsFile.default.poolCapacity configuration.poolCapacity

theorem logLevelOf_eq_getD (line : CommandLine) (file : SettingsFile) :
    logLevelOf line file = (line.logLevel?.filter (· ≠ defaultLogLevel)).getD file.logLevel := by
  rw [logLevelOf]
  cases line.logLevel? with
  | none => rfl
  | some level => by_cases hdefault : level = defaultLogLevel <;> simp [Option.filter, hdefault]

theorem isLayered_of_merge {entries : Entries} (hfile : ofEntries? entries = some file)
    (h : merge line file = .ok configuration) : configuration.IsLayered line entries := by
  have hlayered := isLayered_of_ofEntries? hfile
  obtain ⟨address, haddress, rfl⟩ := merge_eq_ok h
  refine ⟨⟨_, hlayered.listen.getD, haddress⟩, hlayered.convention.getD, hlayered.readTimeout.getD,
    hlayered.writeTimeout.getD, hlayered.idleTimeout.getD, hlayered.maxConnections.getD, ?_,
    ⟨_, hlayered.keepAlive, ?_⟩, hlayered.bufferSize, hlayered.poolCapacity⟩
  · rw [logLevelOf_eq_getD]
    exact hlayered.logLevel.getD
  · show (!line.noKeepAlive && file.keepAlive) = true ↔ _
    rw [Bool.and_eq_true, Bool.not_eq_true']

/-- **Which place each setting comes from.** A configuration has the settings of the command line,
or else of the file, or else the defaults, and the server is told the same. The log level is the one
setting for which the default on the command line does not go before the file. -/
theorem isLayered_of_resolve (h : resolve contentsAt line = .ok configuration) :
    ∃ entries, Opens contentsAt line entries ∧ configuration.IsLayered line entries ∧
      configuration.serverSettings = {
        readTimeout := configuration.readTimeout
        writeTimeout := configuration.writeTimeout
        idleTimeout := configuration.idleTimeout
        keepAlive := configuration.keepAlive
        maxConnections := configuration.maxConnections
        bufferSize := configuration.bufferSize
        poolCapacity := configuration.poolCapacity } := by
  rw [resolve] at h
  rcases hfile : fileOf contentsAt line with error | file
  · rw [hfile] at h
    cases h
  · rw [hfile] at h
    obtain ⟨entries, hopens, hentries⟩ := exists_opens_of_fileOf hfile
    exact ⟨entries, hopens, isLayered_of_merge hentries h, rfl⟩

/-- A read timeout of zero on the command line goes before the one of the file, and the idle timeout
is the file's. -/
theorem isLayered_of_resolve_zero :
    let contentsAt := fun _ ↦ .ok (Bytes.ofString "[timeouts]\nread_ms = 5\nidle_ms = 7\n")
    let line := { CommandLine.empty with file? := some "settings.toml", readTimeout? := some 0 }
    ∃ configuration entries, resolve contentsAt line = .ok configuration ∧
      Opens contentsAt line entries ∧ configuration.IsLayered line entries ∧
      configuration.readTimeout = 0 ∧ configuration.idleTimeout = 7 := by
  intro contentsAt line
  let configuration : Configuration :=
    ⟨.v4 #v[127, 0, 0, 1] 7070, .path, 0, 0, 7, true, 10000, 8192, 1024, "info"⟩
  have h : resolve contentsAt line = .ok configuration := by decide +kernel
  obtain ⟨entries, hopens, hlayered, -⟩ := isLayered_of_resolve h
  exact ⟨configuration, entries, h, hopens, hlayered, rfl, rfl⟩

/-- **When the command line's log level is the one used**: unless it is the default, the file must
say the same. -/
theorem logLevel_eq_iff {level : String} (hline : line.logLevel? = some level)
    (hfile : fileOf contentsAt line = .ok file) (h : resolve contentsAt line = .ok configuration) :
    configuration.logLevel = level ↔ level ≠ defaultLogLevel ∨ file.logLevel = defaultLogLevel := by
  rw [resolve, hfile] at h
  obtain ⟨_, _, rfl⟩ := merge_eq_ok h
  show logLevelOf line file = level ↔ _
  simp only [logLevelOf, hline]
  by_cases hdefault : level = defaultLogLevel
  · subst hdefault
    simp
  · simp [hdefault]

/-- The default level, given on the command line, gives way to the level of the file. -/
theorem logLevel_of_default_given :
    ∃ line configuration,
      CommandLine.read ["--config", "settings.toml", "--log-level", "info"] = .ok line ∧
        line.logLevel? = some "info" ∧
        resolve (fun _ ↦ .ok (Bytes.ofString "[logging]\nlevel = \"debug\"\n")) line =
          .ok configuration ∧
        configuration.logLevel = "debug" := by
  refine ⟨⟨some "settings.toml", none, none, none, none, none, false, none, some "info"⟩,
    ⟨.v4 #v[127, 0, 0, 1] 7070, .path, 0, 0, 0, true, 10000, 8192, 1024, "debug"⟩, ?_, rfl, ?_, rfl⟩
  · decide +kernel
  · decide +kernel

end Configuration

end FramedExchange
