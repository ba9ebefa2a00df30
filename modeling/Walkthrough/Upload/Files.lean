import Walkthrough.Environment
import Walkthrough.Failure.Basic
import Walkthrough.Trace
import Walkthrough.Upload.Base64

/-! The files that an upload step hands to the page. -/
namespace Walkthrough

/-- The bytes of an embedded file. -/
def Encoding.decode (e : Encoding) (content : String) : Except Failure (List Nat) :=
  match e with
  | .utf8 => .ok (Text.Utf8.encode content)
  | .base64 =>
    (Base64.decode content).mapError fun fault =>
      match fault with
      | .notAscii => .value fault.message
      | _ => .base64 fault.message

namespace Upload

/-- The failure of a path that names a home which cannot be told. -/
def noHome (p : Path) : Failure :=
  let user : Path := { p with parts := p.parts.take 1 }
  if user.hasNull then .disk ⟨.nullInName, user⟩ else .state "Could not determine home directory."

/-- The path of a file to upload. A relative one is looked for in the base directory, unless the
step wants it kept. -/
def resolvePath (env : Environment) (base : Path) (resolveFromBase : Bool) (raw : String) :
    Except Failure String :=
  match env.expandUser? (Path.ofString raw) with
  | none => .error (noHome (Path.ofString raw))
  | some p =>
    if p.isAbsolute || !resolveFromBase then .ok p.toString
    else
      let whole := base.join p
      if whole.hasNull then .error (.disk ⟨.nullInName, whole⟩)
      else .ok (Path.resolve env.cwd whole).toString

def ofEntry (env : Environment) (base : Path) (resolveFromBase : Bool) (f : FileEntry) :
    Except Failure UploadFile :=
  match f.source with
  | .content c => (f.encoding.decode c).map fun bytes => .content f.name f.mimeType bytes
  | .path p => (resolvePath env base resolveFromBase p).map .path

/-- The paths that are not blank, trimmed. -/
def listed : UploadPaths → List String
  | .none => []
  | .one p => trimmed [p]
  | .many ps => trimmed ps
where
  trimmed (ps : List String) : List String := (ps.map Text.trim).filter (· ≠ "")

/-- The files of an upload in order. Files that are listed one by one come before paths. -/
def collect (env : Environment) (base : Path) (u : Upload) : Except Failure (List UploadFile) :=
  if u.files.isEmpty then
    (listed u.paths).mapM fun p =>
      (resolvePath env base u.resolveFromBase p).map .path
  else u.files.mapM (ofEntry env base u.resolveFromBase)

/-- The files of an upload step, which must have one. -/
def require (env : Environment) (base : Path) (title : String) (u : Upload) :
    Except Failure (List UploadFile) := do
  let files ← collect env base u
  if files.isEmpty then
    throw (Failure.engineError .noFiles s!"Upload step '{title}' did not provide any files"
      [("step", .str title)])
  else return files

end Upload
end Walkthrough
