import CommentTags.Proofs.Scanner.Lines
import CommentTags.Proofs.Scanner.Run

/-!
What a scan of many files accounts for. Each file that is listed is either scanned or skipped, and
all that is answered and told follows the order of the listing.
-/
namespace CommentTags

/-- One whose files are documents. -/
def Provider.ofDocuments (list : String → Option String → Except Failure Listing)
    (openDocument : Path → Except Failure Document) : Provider :=
  ⟨list, fun q => (openDocument q).map Document.source⟩

namespace Batch

theorem ofScan_append (tags : List FoundTag) (b : Batch) :
    ofScan tags ++ b = ⟨tags ++ b.tags, b.scanned + 1, b.skipped⟩ := by
  rw [Nat.add_comm]
  rfl

theorem ofSkipped_append (skipped : List SkippedFile) (b : Batch) :
    ofSkipped skipped ++ b = ⟨b.tags, b.scanned, skipped ++ b.skipped⟩ := by
  rw [← Nat.zero_add b.scanned]
  rfl

end Batch

section Outcomes

variable (openDocument : Path → Except Failure Document)

/-- The documents among the files, in the order of the files. -/
def documentsAmong (files : List Path) : List Document :=
  files.filterMap fun q => (openDocument q).toOption

/-- A file that does not open is skipped with the reason. -/
def skipped? (q : Path) : Option SkippedFile :=
  match openDocument q with
  | .ok _ => none
  | .error e => some ⟨q, e.message⟩

namespace Scanner

/-- What is told of one file: the number of its tags if it is scanned, and the reason if it does
not open. -/
def fileEvents (s : Scanner) (q : Path) : List Event :=
  match openDocument q with
  | .ok d =>
    if d.isScannable then [.documentScanned d.id (s.scan d.source).answer.length] else []
  | .error e => [.fileSkipped q e.message]

variable {openDocument}

theorem scan_events (s : Scanner) (d : Document) :
    (s.scan d.source).events =
      if d.isScannable then [.documentScanned d.id (s.scan d.source).answer.length] else [] := by
  by_cases hs : d.isScannable = true
  · have hcompletes : d.source.completes s.languages = true :=
      (Document.completes_source (Document.isClosed_of_isScannable hs) s.languages).trans hs
    rw [if_pos hs, scan_eq, if_pos hcompletes]
    rfl
  · have hsource : d.source.isScannable = false := Bool.eq_false_iff.mpr hs
    rw [if_neg hs, scan, hsource]
    rfl

/-- What a scan finds does not depend on the files that were scanned before it. -/
theorem scan_answer_scanFile (openFile : Path → Except Failure Source) (s : Scanner) (q : Path)
    (d : Source) : ((scanFile openFile s q).scanner.scan d).answer = (s.scan d).answer := by
  rw [scan_answer, scan_answer, scanFile_tags, scanFile_languages]

theorem scan_answer_scanFiles (openFile : Path → Except Failure Source) (s : Scanner)
    (files : List Path) (d : Source) :
    ((scanFiles openFile s files).scanner.scan d).answer = (s.scan d).answer := by
  induction files generalizing s with
  | nil => rfl
  | cons q files ih => rw [scanFiles, ih, scan_answer_scanFile]

theorem fileEvents_scanFile (openFile : Path → Except Failure Source) (s : Scanner) (q r : Path) :
    (scanFile openFile s q).scanner.fileEvents openDocument r = s.fileEvents openDocument r := by
  rw [fileEvents, fileEvents]
  cases openDocument r with
  | error e => rfl
  | ok d => simp only [scan_answer_scanFile]

end Scanner

variable (files : List Path)

/-- Each file is either among the documents or skipped. -/
theorem length_documentsAmong :
    (documentsAmong openDocument files).length + (files.filterMap (skipped? openDocument)).length =
      files.length := by
  induction files with
  | nil => rfl
  | cons q files ih =>
    cases ho : openDocument q with
    | ok d =>
      simp only [documentsAmong, List.filterMap_cons, skipped?, ho, Except.toOption,
        List.length_cons] at ih ⊢
      omega
    | error e =>
      simp only [documentsAmong, List.filterMap_cons, skipped?, ho, Except.toOption,
        List.length_cons] at ih ⊢
      omega

namespace Scanner

variable (s : Scanner)

theorem scanFiles_answer :
    (scanFiles (fun q => (openDocument q).map Document.source) s files).answer =
      ⟨(documentsAmong openDocument files).flatMap fun d => (s.scan d.source).answer,
        (documentsAmong openDocument files).length,
        files.filterMap (skipped? openDocument)⟩ := by
  induction files generalizing s with
  | nil => rfl
  | cons q files ih =>
    rw [scanFiles, ih]
    simp only [scan_answer_scanFile]
    cases ho : openDocument q with
    | ok d =>
      have hfirst : (scanFile (fun q => (openDocument q).map Document.source) s q).answer =
          .ofScan (s.scan d.source).answer := by
        simp only [scanFile, ho, Except.map]
      have hdocuments : documentsAmong openDocument (q :: files) =
          d :: documentsAmong openDocument files :=
        List.filterMap_cons_some (by rw [ho]; rfl)
      have hskipped : (q :: files).filterMap (skipped? openDocument) =
          files.filterMap (skipped? openDocument) :=
        List.filterMap_cons_none (by rw [skipped?, ho])
      rw [hfirst, Batch.ofScan_append, hdocuments, hskipped]
      rfl
    | error e =>
      have hfirst : (scanFile (fun q => (openDocument q).map Document.source) s q).answer =
          .ofSkipped [⟨q, e.message⟩] := by
        simp only [scanFile, ho, Except.map]
      have hdocuments : documentsAmong openDocument (q :: files) =
          documentsAmong openDocument files :=
        List.filterMap_cons_none (by rw [ho]; rfl)
      have hskipped : (q :: files).filterMap (skipped? openDocument) =
          ⟨q, e.message⟩ :: files.filterMap (skipped? openDocument) :=
        List.filterMap_cons_some (by rw [skipped?, ho])
      rw [hfirst, Batch.ofSkipped_append, hdocuments, hskipped]
      rfl

theorem scanFiles_events :
    (scanFiles (fun q => (openDocument q).map Document.source) s files).events =
      files.flatMap (s.fileEvents openDocument) := by
  induction files generalizing s with
  | nil => rfl
  | cons q files ih =>
    have hfirst : (scanFile (fun q => (openDocument q).map Document.source) s q).events =
        s.fileEvents openDocument q := by
      rw [scanFile, fileEvents]
      cases openDocument q with
      | ok d => exact s.scan_events d
      | error e => rfl
    have hrest : files.flatMap ((scanFile (fun q => (openDocument q).map Document.source) s
        q).scanner.fileEvents openDocument) = files.flatMap (s.fileEvents openDocument) := by
      congr 1
      funext r
      exact fileEvents_scanFile _ s q r
    rw [scanFiles, ih, hfirst, hrest, List.flatMap_cons]

theorem scanListing_answer (listing : Listing) :
    (s.scanListing listing fun q => (openDocument q).map Document.source).answer =
      ⟨(documentsAmong openDocument listing.files).flatMap fun d => (s.scan d.source).answer,
        (documentsAmong openDocument listing.files).length,
        listing.unreadable ++ listing.files.filterMap (skipped? openDocument)⟩ := by
  have hfiles := s.scanFiles_answer openDocument listing.files
  change Batch.ofSkipped listing.unreadable ++ (scanFiles _ s listing.files).answer = _
  rw [Batch.ofSkipped_append, hfiles]

theorem scanListing_events (listing : Listing) :
    let o := s.scanListing listing fun q => (openDocument q).map Document.source
    o.events = listing.unreadable.map SkippedFile.event ++
      listing.files.flatMap (s.fileEvents openDocument) ++
        [.batchFinished o.answer.scanned o.answer.skipped.length] := by
  intro o
  rw [← s.scanFiles_events openDocument listing.files]
  rfl

/-- A scan of many documents. Of all that is listed, what could not be read is skipped first, and
then each file in its turn is scanned or else skipped with the reason why it did not open; nothing
is lost or counted twice. The tags are those that the scans of the files return, one after the
other, whatever was scanned before them. The events tell of each entry at most once, in the same
order, and of the batch at the end. If the files cannot be listed, nothing happens at all. -/
theorem scanMany_accounts (list : String → Option String → Except Failure Listing)
    (openDocument : Path → Except Failure Document) (included : String)
    (excluded : Option String) :
    let p := Provider.ofDocuments list openDocument
    match list included excluded with
    | .error e =>
      s.scanMany p included excluded = .error e ∧
        s.act (.scanMany p included excluded) = ⟨(), s, []⟩
    | .ok listing =>
      ∃ o, s.scanMany p included excluded = .ok o ∧
        o.answer.skipped =
          listing.unreadable ++ listing.files.filterMap (skipped? openDocument) ∧
        o.answer.scanned = (documentsAmong openDocument listing.files).length ∧
        o.answer.scanned + o.answer.skipped.length =
          listing.files.length + listing.unreadable.length ∧
        o.answer.tags =
          (documentsAmong openDocument listing.files).flatMap
            (fun d => (s.scan d.source).answer) ∧
        (∀ earlier d, ((scanFiles p.openFile s earlier).scanner.scan d).answer =
          (s.scan d).answer) ∧
        o.events =
          listing.unreadable.map (fun f => .fileSkipped f.path f.reason) ++
            listing.files.flatMap (s.fileEvents openDocument) ++
            [.batchFinished o.answer.scanned o.answer.skipped.length] := by
  intro p
  have hlist : p.list included excluded = list included excluded := rfl
  cases hl : list included excluded with
  | error e =>
    have herror : s.scanMany p included excluded = .error e := by
      rw [scanMany, hlist, hl]
      rfl
    refine ⟨herror, ?_⟩
    rw [act, herror]
  | ok listing =>
    have hok : s.scanMany p included excluded = .ok (s.scanListing listing p.openFile) := by
      rw [scanMany, hlist, hl]
      rfl
    have hanswer : (s.scanListing listing p.openFile).answer = _ :=
      s.scanListing_answer openDocument listing
    have htotal := length_documentsAmong openDocument listing.files
    refine ⟨_, hok, ?_, ?_, ?_, ?_, fun earlier d => scan_answer_scanFiles p.openFile s earlier d,
      s.scanListing_events openDocument listing⟩
    · rw [hanswer]
    · rw [hanswer]
    · rw [hanswer]
      dsimp only
      rw [List.length_append]
      omega
    · rw [hanswer]

end Scanner

end Outcomes

end CommentTags
