import GeoUrn.AuthorityCode
import GeoUrn.Code
import GeoUrn.Command.Batch
import GeoUrn.Definition.Parse

/-!
The program: `parse` takes an identifier apart, `code` gives its code, `format` builds a URN, and
`batch` reads a file of identifiers.
-/
namespace GeoUrn.Command

def helpLines : List Text := [
  "Usage: ogcdef [OPTIONS] COMMAND [ARGS]...",
  "",
  "Commands:",
  "  parse URI [--json]                         Take an identifier apart.",
  "  code URI [-t TYPE] [-a AUTHORITY]          Print the code of an identifier.",
  "  format -t TYPE -a CODESPACE -c CODE [-V VERSION]",
  "                                             Print the URN of a code.",
  "  batch INPUT -o OUTPUT [--audit-log LOG] [--keep-comments] [-v]",
  "                                             Read a file of identifiers."]

def versionLine : Text := Text.ofChars programName ++ ", version " ++ Text.ofChars programVersion

def describe (d : Definition) : List Text :=
  let parameters : List Text :=
    if d.parameters.isEmpty then []
    else ["parameters: " ++ Text.join ([',', ' '] : Text) d.parameters]
  let components : List Text :=
    ["type:       " ++ d.objectType.getD [], "authority:  " ++ d.authority.getD [],
     "version:    " ++ d.version.getD [], "code:       " ++ d.code.getD []]
  components ++ parameters ++ ["urn:        " ++ d.toUrn]

def runParse (uri : Text) (json : Bool) : Report :=
  match Definition.parse? .standard uri with
  | none => .noMatch ("Not a recognized identifier: " ++ uri)
  | some d => .success (if json then [d.toJson.spaced] else describe d)

def runCode (uri type authority : Text) : Report :=
  match Code.parse? .standard type authority uri with
  | none => .noMatch ("No " ++ authority ++ " " ++ type ++ " code in: " ++ uri)
  | some code => .success [code]

def runFormat (type codespace code : Text) (version : Option Text) : Report :=
  match AuthorityCode.toUrn? (some type) ⟨some codespace, version, some code⟩ with
  | none => .noMatch "Cannot build a URN: type, codespace and code are mandatory"
  | some urn => .success [urn]

def perform (invocation : Invocation) (words : List Chars) (site : Site) : Site × Outcome :=
  match invocation with
  | .help => (site, .ended (.success helpLines))
  | .version => (site, .ended (.success [versionLine]))
  | .parse uri json => (site, .ended (runParse (Text.ofChars uri) json))
  | .code uri type authority =>
    (site, .ended (runCode (Text.ofChars uri) (Text.ofChars type) (Text.ofChars authority)))
  | .format type codespace code version =>
    (site, .ended (runFormat (Text.ofChars type) (Text.ofChars codespace) (Text.ofChars code)
      (version.map Text.ofChars)))
  | .batch job => runBatch job (words.map Text.ofChars) site

def run (words : List Chars) (site : Site) : Site × Outcome :=
  match Invocation.ofArguments words with
  | none => (site, .misused)
  | some invocation => perform invocation words site

end GeoUrn.Command
