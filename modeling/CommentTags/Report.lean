import CommentTags.Files.Listing
import CommentTags.Report.Json
import CommentTags.View.Tree

/-!
Reports on all tags that were found: for people as a tree, for programs as JSON. Both list the
same tags in the same order.
-/
namespace CommentTags.Report

def skippedText (skipped : List SkippedFile) : Text :=
  if skipped.isEmpty then []
  else
    s!"{skipped.length} files skipped:\n".toList ++
      skipped.flatMap fun f => s!"  {f.path}: {f.reason}\n".toList

def tree (root : Path) (c : Cache) (skipped : List SkippedFile) : Text :=
  let t := TagTree.ofCache (some root) c
  t.display ++ s!"{t.tagCount} tags in {t.groups.length} files\n".toList ++ skippedText skipped

def tagJson (t : FoundTag) : Json :=
  .record [
    ("documentId", .string t.document.toList),
    ("range", .record [
      ("startLine", .number t.range.start.line),
      ("startCol", .number t.range.start.column),
      ("endLine", .number t.range.stop.line),
      ("endCol", .number t.range.stop.column)]),
    ("lineText", .string t.lineText),
    ("tag", .string t.tag.toList),
    ("tagText", .string t.annotation),
    ("line", .number t.line)]

def skippedJson (f : SkippedFile) : Json :=
  .record [("path", .string f.path.toList), ("reason", .string f.reason.toList)]

def json (c : Cache) (skipped : List SkippedFile) : Text :=
  let report := Json.record [
    ("tags", .list (c.sorted.map tagJson)),
    ("skipped", .list (skipped.map skippedJson))]
  report.text ++ ['\n']

end CommentTags.Report
