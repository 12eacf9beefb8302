import ToolRelay.Schema.OfToml
import ToolRelay.Settings.ConfigError
import ToolRelay.Settings.Tool
import ToolRelay.Toml.Reader

/-!
# Reading the configuration file

`FileConfig.parse` reads the text of a configuration file, `FileConfig.load` the file itself.
-/

namespace ToolRelay

namespace FileConfig

/-- The configuration that a text describes.  Where a wider integer than one of 64 bits stands in
the text, anything that cannot be read is put down to it. -/
def parse (source : String) : Except ConfigError FileConfig :=
  match Toml.parse? source with
  | none => .error .notToml
  | some document =>
    match schema.ofToml document with
    | .ok config => .ok config
    | .error fault =>
      if document.isNarrow then .error (.malformed (fault.report source)) else .error .notToml

/-- The file that is read when none is named. -/
def standardFile : Path := Path.ofString "toolbridge.toml"

/-- The configuration in the named file; if none is named, in the standard file of the current
directory, which need not exist. -/
def load (host : Host) (file : Option Path) : Except ConfigError FileConfig :=
  let read (file : Path) : Except ConfigError FileConfig :=
    match host.readText file with
    | .ok source => parse source
    | .error reason => .error (.unreadable file reason)
  match file with
  | some file => read file
  | none => if host.isFile standardFile then read standardFile else .ok standard

end FileConfig

end ToolRelay
