import CommentTags.Proofs.Scanner.Scan

/-!
What is asked of a scanner one after the other. A scan of many files comes down to the scans of
those that open, so a run of actions is a run of single steps.
-/
namespace CommentTags

/-- One who holds files: which there are for an including and an excluding glob, and each of
them as a document. -/
structure Provider where
  list : String → Option String → Except Failure Listing
  openFile : Path → Except Failure Source

/-- The files that a scan of many reads, in their order; none if they cannot be listed. -/
def Provider.documents (p : Provider) (included : String) (excluded : Option String) :
    List Source :=
  match p.list included excluded with
  | .ok listing => listing.files.filterMap fun q => (p.openFile q).toOption
  | .error _ => []

/-- What concerns one document, all of them, or the tags. -/
inductive Step where
  | configure (tags : List Tag)
  | scan (d : Source)
  | invalidate (id : Option DocumentId)

inductive Action where
  | step (a : Step)
  | scanMany (p : Provider) (included : String) (excluded : Option String)

def Action.steps : Action → List Step
  | step a => [a]
  | scanMany p included excluded => (p.documents included excluded).map .scan

namespace Scanner

/-- Fails only if the files cannot be listed. -/
def scanMany (s : Scanner) (p : Provider) (included : String) (excluded : Option String) :
    Except Failure (Outcome Batch) := do
  return s.scanListing (← p.list included excluded) p.openFile

def Outcome.silent {α : Type} (o : Outcome α) : Outcome Unit := ⟨(), o.scanner, o.events⟩

def take (s : Scanner) : Step → Outcome Unit
  | .configure tags => (s.configure tags).silent
  | .scan d => (s.scan d).silent
  | .invalidate id => s.invalidate id

/-- A scan of files that cannot be listed does nothing. -/
def act (s : Scanner) : Action → Outcome Unit
  | .step a => s.take a
  | .scanMany p included excluded =>
    match s.scanMany p included excluded with
    | .ok o => o.silent
    | .error _ => ⟨(), s, []⟩

/-- The scanner after the actions, and all their events. -/
def run (s : Scanner) : List Action → Outcome Unit
  | [] => ⟨(), s, []⟩
  | a :: rest =>
    let first := s.act a
    let last := first.scanner.run rest
    ⟨(), last.scanner, first.events ++ last.events⟩

def after (s : Scanner) (steps : List Step) : Scanner :=
  steps.foldl (fun s a => (s.take a).scanner) s

variable (s : Scanner)

theorem after_append (steps more : List Step) :
    s.after (steps ++ more) = (s.after steps).after more :=
  List.foldl_append

theorem scanFiles_scanner (openFile : Path → Except Failure Source) (ps : List Path) :
    (scanFiles openFile s ps).scanner =
      s.after ((ps.filterMap fun q => (openFile q).toOption).map .scan) := by
  induction ps generalizing s with
  | nil => rfl
  | cons p ps ih =>
    rw [scanFiles, ih, scanFile]
    cases ho : openFile p with
    | error e => simp [ho, Except.toOption]
    | ok d =>
      simp only [List.filterMap_cons, ho, Except.toOption, List.map_cons]
      rfl

theorem act_scanner (a : Action) : (s.act a).scanner = s.after a.steps := by
  cases a with
  | step a => rfl
  | scanMany p included excluded =>
    rw [act, scanMany, Action.steps, Provider.documents]
    cases p.list included excluded with
    | error e => rfl
    | ok listing => exact s.scanFiles_scanner p.openFile listing.files

theorem run_scanner (actions : List Action) :
    (s.run actions).scanner = s.after (actions.flatMap Action.steps) := by
  induction actions generalizing s with
  | nil => rfl
  | cons a rest ih => rw [run, ih, act_scanner, ← after_append, List.flatMap_cons]

theorem take_languages (a : Step) : (s.take a).scanner.languages = s.languages := by
  cases a with
  | configure tags => rfl
  | scan d => exact s.scan_languages d
  | invalidate id => rfl

theorem after_languages (steps : List Step) : (s.after steps).languages = s.languages := by
  induction steps generalizing s with
  | nil => rfl
  | cons a rest ih => exact (ih (s.take a).scanner).trans (s.take_languages a)

end Scanner

end CommentTags
