import Walkthrough.Engine.Action
import Walkthrough.Proofs.Base64
import Walkthrough.Proofs.Bytes
import Walkthrough.Proofs.Filling

/-!
What an upload hands to the page: a file for each entry in order, with the bytes that the entry embeds
and with its name and media type.
-/
namespace Walkthrough

/-- The file that an entry embeds: the bytes that are written in base 64, with characters of no account
anywhere between them, or those that are read as the text. -/
inductive FileEntry.Embeds (f : FileEntry) : UploadFile → Prop
  | base64 {text : String} {bytes : List Nat} (source : f.source = .content text)
      (encoding : f.encoding = .base64) (small : ∀ b ∈ bytes, b < 256)
      (strewn : Base64.Strewn (Base64.encode bytes) text.toList) :
      Embeds f (.content f.name f.mimeType bytes)
  | utf8 {text : String} {bytes : List Nat} (source : f.source = .content text)
      (encoding : f.encoding = .utf8) (read : Text.Utf8.decode bytes = .ok text) :
      Embeds f (.content f.name f.mimeType bytes)

section Entries

variable {env : Environment} {base : Path} {resolveFromBase : Bool} {f : FileEntry}
  {file : UploadFile} {title : String} {u : Upload} {files : List UploadFile}

theorem FileEntry.Embeds.ofEntry (h : f.Embeds file) :
    Upload.ofEntry env base resolveFromBase f = .ok file := by
  unfold Upload.ofEntry
  cases h with
  | base64 source encoding small strewn =>
    rw [source]
    dsimp only
    rw [encoding, Encoding.decode, Base64.decode_strewn small strewn]
    rfl
  | utf8 source encoding read =>
    rw [source]
    dsimp only
    rw [encoding, Text.Utf8.decode_eq_ok.mp read]
    rfl

/-- Every text can be embedded. -/
theorem FileEntry.exists_embeds_of_utf8 {text : String} (source : f.source = .content text)
    (encoding : f.encoding = .utf8) : ∃ file, f.Embeds file :=
  ⟨_, .utf8 source encoding (Text.Utf8.decode_eq_ok.mpr rfl)⟩

/-- Listed entries give one file each, in order. -/
theorem Upload.require_eq_ok (hfiles : u.files ≠ []) : u.require env base title = .ok files ↔
    List.Forall₂ (fun f file => ofEntry env base u.resolveFromBase f = .ok file) u.files files := by
  have hcollect : u.collect env base = u.files.mapM (ofEntry env base u.resolveFromBase) :=
    if_neg (by simpa using hfiles)
  constructor
  · intro h
    obtain ⟨files', hfiles', h⟩ := except_bind_eq_ok.mp h
    split at h
    · cases h
    · cases h
      exact forall₂_of_mapM (hcollect.symm.trans hfiles')
  · intro h
    have hsome : files.isEmpty = false := by
      rw [List.isEmpty_eq_false_iff, ← List.length_pos_iff, ← h.length_eq]
      exact List.length_pos_iff.mpr hfiles
    unfold require
    rw [hcollect, mapM_of_forall₂ h]
    change (if files.isEmpty then _ else _) = _
    rw [hsome]
    rfl

end Entries

/-- Empties the input if the upload asks for it. -/
def Upload.emptyFirst (u : Upload) (l : Locator) : Play Unit :=
  if u.clearFirst then l.setInputFiles [] [] else Act.pure ()

theorem Locator.setInputFiles_trace (l : Locator) (files : List UploadFile) (os : Members)
    (s : Scene) : (l.setInputFiles files os s).trace = (l.call (.setInputFiles files os) s).trace := by
  unfold setInputFiles
  rw [Act.bind_eq]
  cases h : (l.call (.setInputFiles files os) s).result with
  | error f => rw [Act.bind_of_error h]
  | ok e =>
    rw [Act.bind_of_ok h]
    exact List.append_nil _

theorem Step.perform_upload {s : Step} {u : Upload} (haction : s.action = .upload u)
    (engine : Engine) (l : Locator) (ctx : Context) : s.perform engine (some l) ctx =
      Act.bind (Act.ofExcept (u.require engine.environment engine.settings.uploadBaseDir s.title))
        fun files => Act.bind (u.emptyFirst l) fun _ => l.setInputFiles files s.options := by
  have hperform : s.perform engine (some l) ctx = s.upload engine u l := by
    unfold perform
    rw [haction]
    rfl
  rw [hperform]
  unfold upload Upload.emptyFirst
  cases u.clearFirst <;> rfl

section Handed

variable {s : Step} {u : Upload} {l : Locator} {files : List UploadFile}

/-- The marks of the calls by which an upload gives files to an input. -/
def Upload.IsCall (r : Except Failure (List UploadFile)) (options : Members) (m : Mark) : Prop :=
  (∃ name, m = .element (.setInputFiles [] []) name) ∨
    ∃ files name, r = .ok files ∧ m = .element (.setInputFiles files options) name

theorem Locator.leaves_setInputFiles {Q : Mark → Prop} {os : Members}
    (h : ∀ name, Q (.element (.setInputFiles files os) name)) :
    Act.Leaves Q (l.setInputFiles files os) := by
  intro s m hm
  rw [setInputFiles_trace] at hm
  exact leaves_call h s m hm

/-- An upload gives an input nothing but the files of the step, apart from the call that empties it. -/
theorem Step.leaves_perform_upload (haction : s.action = .upload u) (engine : Engine)
    (l : Locator) (ctx : Context) :
    Act.Leaves (Upload.IsCall
        (u.require engine.environment engine.settings.uploadBaseDir s.title) s.options)
      (s.perform engine (some l) ctx) := by
  rw [perform_upload haction]
  intro scene m hm
  cases hr : u.require engine.environment engine.settings.uploadBaseDir s.title with
  | error f =>
    rw [hr] at hm
    cases hm
  | ok files =>
    rw [hr, Act.bind_of_silent (Act.ofExcept_eq _ _)] at hm
    refine (Act.closed_leaves (Upload.IsCall (.ok files) s.options)).bind ?_ (fun _ => ?_) scene m hm
    · unfold Upload.emptyFirst
      split
      · exact Locator.leaves_setInputFiles fun name => Or.inl ⟨name, rfl⟩
      · exact (Act.closed_leaves _).pure ()
    · exact Locator.leaves_setInputFiles fun name => Or.inr ⟨files, name, rfl, rfl⟩

/-- An upload of listed files hands the input one file for each entry, in order. Where an entry embeds
content, its file has the bytes that the content stands for, under the entry's name and media type, and
there are such bytes for every text. Nothing else is handed over, but for the call that empties the
input. -/
theorem Step.perform_hands_over (haction : s.action = .upload u) (hfiles : u.files ≠ [])
    (engine : Engine) (l : Locator) (ctx : Context) (scene : Scene) :
    let o := s.perform engine (some l) ctx scene
    let emptied := u.emptyFirst l scene
    (∀ files, List.Forall₂ (fun f file => f.Embeds file ∨
        Upload.ofEntry engine.environment engine.settings.uploadBaseDir u.resolveFromBase f =
          .ok file) u.files files →
      emptied.result = .ok () → ∀ e, l.first? emptied.state.page = some e →
        o.trace = emptied.trace ++ [.element (.setInputFiles files s.options) e.name]) ∧
    (∀ files options name, .element (.setInputFiles files options) name ∈ o.trace → files ≠ [] →
      options = s.options ∧
        List.Forall₂ (fun f file => ∀ file', f.Embeds file' → file = file') u.files files) ∧
    ∀ f : FileEntry, ∀ text, f.source = .content text → f.encoding = .utf8 →
      ∃ file, f.Embeds file := by
  intro o emptied
  refine ⟨?made, ?only, fun f text => FileEntry.exists_embeds_of_utf8⟩
  case made =>
    intro files hentries (hemptied : (u.emptyFirst l scene).result = .ok ()) e hfirst
    have hrequire : u.require engine.environment engine.settings.uploadBaseDir s.title =
        .ok files :=
      (Upload.require_eq_ok hfiles).mpr
        (hentries.imp fun f file h => h.elim FileEntry.Embeds.ofEntry id)
    have ho : o = Act.bind (u.emptyFirst l) (fun _ => l.setInputFiles files s.options) scene := by
      change s.perform engine (some l) ctx scene = _
      rw [perform_upload haction, hrequire, Act.bind_of_silent (Act.ofExcept_eq _ _)]
    rw [ho, Act.bind_of_ok hemptied]
    change emptied.trace ++ (l.setInputFiles files s.options emptied.state).trace = _
    rw [Locator.setInputFiles_trace, Locator.call_trace, hfirst]
    rfl
  case only =>
    intro files options name hm hsome
    obtain ⟨name', hcall⟩ | ⟨files', name', hrequire, hcall⟩ :=
      leaves_perform_upload haction engine l ctx scene _ hm
    · cases hcall
      exact absurd rfl hsome
    · cases hcall
      refine ⟨rfl, ((Upload.require_eq_ok hfiles).mp hrequire).imp fun f file hfile file' h => ?_⟩
      exact Except.ok.inj (hfile.symm.trans h.ofEntry)

/-- A page with an input for files. -/
def fileForm : Scene := { page := { elements := [("#file", [.mk { name := "file" } [] []])] } }

theorem Step.perform_hands_over_strewn :
    let greeting : FileEntry :=
      { source := .content "SGVs\nbG8=", name := some "greeting.txt", mimeType := "text/plain" }
    let accents : FileEntry :=
      { source := .content "né", encoding := .utf8, name := some "accents.txt" }
    let s : Step := { action := .upload { files := [greeting, accents], clearFirst := true } }
    (s.perform default (some (.all "#file")) default fileForm).trace =
      [.element (.setInputFiles [] []) "file",
        .element (.setInputFiles
          [.content greeting.name greeting.mimeType [72, 101, 108, 108, 111],
            .content accents.name accents.mimeType [110, 195, 169]] []) "file"] := by
  intro greeting accents s
  have hgreeting : greeting.Embeds
      (.content greeting.name greeting.mimeType [72, 101, 108, 108, 111]) := by
    have hwritten : Base64.encode [72, 101, 108, 108, 111] = "SGVsbG8=".toList := by
      decide +kernel
    have hbreak : Base64.Ignored '\n' := ⟨by decide, by decide +kernel, by decide⟩
    refine .base64 rfl rfl (by decide) (hwritten ▸ ?_)
    exact .keep _ (.keep _ (.keep _ (.keep _ (.put hbreak
      (.keep _ (.keep _ (.keep _ (.keep _ .nil))))))))
  have haccents : accents.Embeds (.content accents.name accents.mimeType [110, 195, 169]) :=
    .utf8 rfl rfl (Text.Utf8.decode_eq_ok.mpr (by decide +kernel))
  obtain ⟨hmade, -⟩ := perform_hands_over (s := s) rfl (by simp) default (.all "#file") default fileForm
  exact hmade _ (.cons (Or.inl hgreeting) (.cons (Or.inl haccents) .nil)) rfl _ rfl

end Handed

end Walkthrough
