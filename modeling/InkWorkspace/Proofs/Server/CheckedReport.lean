import InkWorkspace.Project.Report
import InkWorkspace.Proofs.Compiler.Memoryless
import InkWorkspace.Proofs.Ledger
import InkWorkspace.Proofs.Server.EditorText
import InkWorkspace.Proofs.Story.Reach

/- One file, diagnosed on two ways. A report is made of the file as it is on disk, with the index of the
   project. A server that has just been started has the same index (`started_eq`), and it publishes what
   it finds out about a document as soon as the document is opened (`notify_opened`). Opening a
   document with the text that it has on disk leaves the index as it is, since that text is the one
   indexed (`Story.update_read`). So both ask for the diagnostics of one text in one index. The server
   puts them together in its own way, from what the index says and from what a task for the compiler
   comes back with, and they are the same ones in the same order unless that task breaks off
   (`diagnosticsPass_eq`). So the report shows what is published (`check_reports_published`). -/
namespace InkWorkspace

/-! ## The index -/

namespace Story

/-- A built index holds each file with its text on disk, and taking in that text changes nothing. -/
theorem update_read (disk : Disk) (settings : Settings) (root : Path) {path : Path}
    (hpath : path ∈ (build disk settings root).files.keys) :
    ∃ text, disk.text? path = some text ∧
      (build disk settings root).update disk path text = build disk settings root := by
  have hformed := build_wellFormed disk settings root
  obtain ⟨file, hfile⟩ := PathMap.contains_iff.mp (PathMap.mem_keys_iff.mp hpath)
  obtain ⟨hsame, hnormal, hread⟩ := hformed.files.sound hfile
  subst hsame
  refine ⟨file.text, build_saved disk settings root file.path file hfile id, ?_⟩
  apply hformed.update_eq_self
  rw [hnormal, ← hread]
  exact hfile

end Story

/-! ## The server -/

namespace Settings

theorem load_quiet {client : Option Json} (h : editorSource client = .ok []) (host : Host)
    (workspace : Path) : load host workspace client = load host workspace none := by
  have hnone : editorSource none = .ok [] := rfl
  simp only [load, h, hnone]

end Settings

namespace Session

variable {σ : Type}

theorem file?_eq {session : Session} {uri : Uri} {path : Path} (h : uri.document? = some path) :
    session.file? uri = session.story.files.find? path := by
  obtain ⟨spelled, hspelled, hpath⟩ := Option.map_eq_some_iff.mp h
  simp only [file?, hspelled, Option.bind_eq_bind, Option.bind_some, hpath]
  rfl

theorem openDocument_eq (disk : Disk) (session : Session) {uri : Uri} {path : Path}
    (h : uri.document? = some path) (version : Int) (text : String) :
    session.openDocument disk uri version text = { session with
      documents := setVersion uri version session.documents
      story := session.story.update disk path text
      ledger := (session.ledger.openSession uri).2 } := by
  obtain ⟨spelled, hspelled, hpath⟩ := Option.map_eq_some_iff.mp h
  have hupdate : session.story.update disk spelled text = session.story.update disk path text := by
    rw [← hpath, Story.update, Story.update, Path.normalize_normalize]
  simp only [openDocument, updateDocument, hspelled, hupdate]

/-- When the compiler's task comes back, the diagnostics of a document are those that are found in one
    go. -/
theorem diagnosticsPass_eq {runtime : Runtime σ} {uri : Uri} (hback : runtime.broken? uri = none)
    (toolchain : Toolchain σ) (disk : Disk) (session : Session) (file : InkFile) (s : σ) :
    session.diagnosticsPass runtime toolchain disk uri file s =
      (toolchain session.settings).allDiagnostics disk session.story session.settings
        (some (session.story.handler disk)) file.path file.text s := by
  unfold diagnosticsPass
  rw [hback]
  rfl

/-- A document that has just been opened is diagnosed with its new text, since nothing newer is known
    of it. -/
theorem publish_opened {runtime : Runtime σ} {uri : Uri} (hback : runtime.broken? uri = none)
    (toolchain : Toolchain σ) (disk : Disk) (session : Session) {path : Path}
    (h : uri.document? = some path) (version : Int) (text : String) (s : σ) :
    let story := session.story.update disk path text
    ((session.openDocument disk uri version text).publish runtime toolchain disk uri s).1 =
      [.diagnostics uri ((toolchain session.settings).allDiagnostics disk story
        session.settings (some (story.handler disk)) path text s).1 (some version)] := by
  intro story
  have hopened := openDocument_eq disk session h version text
  have hversion : (session.openDocument disk uri version text).version? uri = some version := by
    rw [hopened, version?, lookup_setVersion, if_pos rfl]
  -- The document is indexed with its text, and the new session of the ledger has no version yet.
  have hfile : (session.openDocument disk uri version text).file? uri =
      some (InkFile.read path text) := by
    have hfind := Story.find?_update_document disk session.story path text
    rw [Uri.document?_normal h] at hfind
    rw [file?_eq h, hopened]
    exact hfind
  have hfresh := (session.ledger.find?_openSession uri uri).trans (if_pos rfl)
  have hsession : (session.openDocument disk uri version text).ledger.session? uri =
      some (session.ledger.newest + 1) := by
    rw [hopened, Ledger.session?, hfresh]
    rfl
  have haccepts : (session.openDocument disk uri version text).ledger.Accepts uri
      (session.ledger.newest + 1) version := by
    rw [hopened]
    exact ⟨_, hfresh, rfl, fun latest hlatest => by cases hlatest⟩
  unfold publish
  rw [hversion, hsession, hfile]
  dsimp only
  rw [diagnosticsPass_eq hback, Ledger.commit_of_accepts haccepts, hopened]
  rfl

end Session

namespace Server

variable {σ : Type}

theorem started_eq {runtime : Runtime σ} (hscans : runtime.scans = true) (toolchain : Toolchain σ)
    (memory : σ) {host : Host} {opening : Opening} {root : Path} (hroot : opening.workspace? = some root)
    (hquiet : Settings.editorSource (Session.section? opening.options) = .ok [])
    {settings : Settings} (hload : Settings.load host root none = .ok settings) :
    started runtime toolchain memory host opening = ⟨.running, { Session.blank with
      workspace := some root
      client := Session.section? opening.options
      settings := settings
      story := .build host.disk settings (settings.projectRoot host root) }, memory⟩ := by
  have hsettings : Settings.load host root (Session.section? opening.options) = .ok settings :=
    (Settings.load_quiet hquiet host root).trans hload
  have hreload : (({ Session.blank with
      workspace := some root
      client := Session.section? opening.options } : Session).reload runtime host).2 =
        { Session.blank with
          workspace := some root
          client := Session.section? opening.options
          settings := settings
          story := .build host.disk settings (settings.projectRoot host root) } := by
    -- No document is open, so there is nothing to put back.
    have horder : runtime.order [] = [] := (runtime.perm []).eq_nil
    unfold Session.reload
    dsimp only [Option.getD_some]
    rw [hsettings, show Session.uris _ = [] from rfl, horder, hscans]
    rfl
  show (⟨.running, (Session.blank.start runtime host opening).2, memory⟩ : Server σ) = _
  rw [Session.start, hroot, hreload]

theorem notify_opened (runtime : Runtime σ) (toolchain : Toolchain σ) (host : Host)
    {server : Server σ} (h : server.phase = .running) (uri : Uri) (version : Int) (text : String) :
    (server.notify runtime toolchain host (.opened uri version text)).1 =
      ((server.session.openDocument host.disk uri version text).publish runtime toolchain host.disk
        uri server.memory).1 := by
  unfold notify
  rw [h]
  exact List.append_nil _

end Server

/-! ## The report -/

namespace Project

variable {σ : Type}

/-- The settings of a workspace folder, and the index of the root that they name. -/
def ofSettings (host : Host) (workspace : Path) (settings : Settings) : Project :=
  ⟨settings, .build host.disk settings (settings.projectRoot host workspace)⟩

theorem load_eq {host : Host} {base workspace : Path} {settings : Settings}
    (hload : Settings.load host (base.resolve workspace) none = .ok settings)
    (hroot : host.disk.isFolder (settings.projectRoot host (base.resolve workspace)) = true) :
    load host base workspace = .ok (ofSettings host (base.resolve workspace) settings) := by
  simp only [load, hload, hroot, ofSettings, if_true]

theorem check_eq {host : Host} {file path : Path} {text : String}
    (hpath : host.workingFolder.resolve file = path) (htext : host.disk.text? path = some text)
    (project : Project) (compiler : Compiler σ) (s : σ) :
    (project.check host (some compiler) file s).1 =
      .ok (.ofDiagnostics (project.story.display path)
        (compiler.allDiagnostics host.disk project.story project.settings
          (some (project.story.handler host.disk)) path text s).1) := by
  have hread : host.disk.readText path = .ok text := ok_of_toOption htext
  simp only [check, hpath, hread]
  rfl

/-- A report and a server that has just been started agree on every indexed file. If the editor names
    the workspace and sends no settings, and the compiler's answers depend on its calls alone, the
    report shows, line by line, the diagnostics that the server publishes when the file is opened with
    its text on disk, and the scan and the compiler's task for the file come back. -/
theorem check_reports_published (toolchain : Toolchain σ) (host : Host) (root : Path)
    {settings : Settings} (hload : Settings.load host root none = .ok settings)
    (hsteady : (toolchain settings).Memoryless) {opening : Opening}
    (hroot : opening.workspace? = some root)
    (hquiet : Settings.editorSource (Session.section? opening.options) = .ok [])
    {path : Path} (hpath : path ∈ (ofSettings host root settings).story.files.keys)
    {file : Path} (hfile : host.workingFolder.resolve file = path)
    {uri : Uri} (huri : uri.document? = some path) {starting runtime : Runtime σ}
    (hscans : starting.scans = true) (hback : runtime.broken? uri = none) (version : Int)
    (s memory : σ) :
    (∀ base workspace, base.resolve workspace = root →
      host.disk.isFolder (settings.projectRoot host root) = true →
        load host base workspace = .ok (ofSettings host root settings)) ∧
    ∃ text items report, host.disk.text? path = some text ∧
      ((Server.started starting toolchain memory host opening).notify runtime toolchain host
        (.opened uri version text)).1 = [.diagnostics uri items (some version)] ∧
      ((ofSettings host root settings).check host (some (toolchain settings)) file s).1 =
        .ok report ∧
      report.text = String.join (items.map fun item =>
        item.render ((ofSettings host root settings).story.display path) ++ "\n") ∧
      report.failed = items.any (·.severity == .error) := by
  obtain ⟨text, htext, hupdate⟩ := Story.update_read host.disk settings _ hpath
  have hloaded : ∀ base workspace, base.resolve workspace = root →
      host.disk.isFolder (settings.projectRoot host root) = true →
        load host base workspace = .ok (ofSettings host root settings) := by
    intro base workspace hbase hfolder
    subst hbase
    exact load_eq hload hfolder
  have hpublished : ((Server.started starting toolchain memory host opening).notify runtime
      toolchain host (.opened uri version text)).1 = [.diagnostics uri
        ((toolchain settings).allDiagnostics host.disk (ofSettings host root settings).story settings
          (some ((ofSettings host root settings).story.handler host.disk)) path text memory).1
        (some version)] := by
    rw [Server.started_eq hscans toolchain memory hroot hquiet hload,
      Server.notify_opened runtime toolchain host rfl,
      Session.publish_opened hback toolchain host.disk _ huri]
    dsimp only
    rw [hupdate]
    rfl
  have hchecked := check_eq hfile htext (ofSettings host root settings) (toolchain settings) s
  -- What the compiler was asked before makes no difference, so both find the same.
  rw [hsteady.allDiagnostics host.disk _ _ _ path text s memory] at hchecked
  exact ⟨hloaded, text, _, _, htext, hpublished, hchecked, rfl, rfl⟩

namespace WaryCompiler

/-- A project with a file that includes itself and one beside the folder. -/
def host : Host :=
  let disk := Disk.ofTexts [("/p/a.ink", "INCLUDE a.ink\nINCLUDE ../b.ink\n"), ("/b.ink", "-> END\n")]
  ⟨{ disk with workingFolder := (Path.ofString "/p").names }, "/"⟩

def root : Path := .ofString "/p"

def path : Path := .ofString "/p/a.ink"

def address : Uri := ⟨"file", some .blank, "/p/a.ink", ""⟩

/-- An editor that sends settings for others, but none for this server. -/
def opening : Opening :=
  ⟨[⟨"file", some .blank, "/p", ""⟩], none,
    some (.obj [("other", .bool true), ("inkline", .null)])⟩

/-- A compiler that warns of the first line and counts its calls. -/
def toolchain : Toolchain Nat := fun _ =>
  ⟨fun call calls => (⟨[⟨.warning, "WARNING: line 1: odd"⟩], .ok call.source⟩, calls + 1)⟩

/-- The report on the file shows what the server publishes, although the compiler was not asked
    equally often. -/
theorem check_reports_warning :
    Settings.load host root none = .ok {} ∧ (toolchain {}).Memoryless ∧
      opening.workspace? = some root ∧
      Settings.editorSource (Session.section? opening.options) = .ok [] ∧
      path ∈ (ofSettings host root {}).story.files.keys ∧
      host.workingFolder.resolve (.ofString "a.ink") = path ∧ address.document? = some path ∧
      (Runtime.steady : Runtime Nat).scans = true ∧
      (Runtime.steady : Runtime Nat).broken? address = none ∧
      ∃ text items report, host.disk.text? path = some text ∧
        ((Server.started .steady toolchain 3 host opening).notify .steady toolchain host
          (.opened address 1 text)).1 = [.diagnostics address items (some 1)] ∧
        ((ofSettings host root {}).check host (some (toolchain {})) (.ofString "a.ink") 0).1 =
          .ok report ∧
        report.text = String.join (items.map fun item =>
          item.render ((ofSettings host root {}).story.display path) ++ "\n") ∧
        report.failed = items.any (·.severity == .error) := by
  have hload : Settings.load host root none = .ok {} := by
    apply ok_of_toOption
    decide +kernel
  have hsteady : (toolchain {}).Memoryless := fun _ _ _ => rfl
  have hroot : opening.workspace? = some root := by decide +kernel
  have hquiet : Settings.editorSource (Session.section? opening.options) = .ok [] := rfl
  have hpath : path ∈ (ofSettings host root {}).story.files.keys := by
    have htext : host.disk.text? path = some "INCLUDE a.ink\nINCLUDE ../b.ink\n" := by
      decide +kernel
    exact (Story.mem_keys_build_iff (by decide +kernel)).mpr (.scanned (by decide +kernel) htext)
  have hfile : host.workingFolder.resolve (.ofString "a.ink") = path := by decide +kernel
  have haddress : address.document? = some path := by decide +kernel
  have hscans : (Runtime.steady : Runtime Nat).scans = true := rfl
  have hback : (Runtime.steady : Runtime Nat).broken? address = none := rfl
  exact ⟨hload, hsteady, hroot, hquiet, hpath, hfile, haddress, hscans, hback,
    (check_reports_published toolchain host root hload hsteady hroot hquiet hpath hfile haddress
      hscans hback 1 0 3).2⟩

end WaryCompiler

end Project

end InkWorkspace
