import CommandUrl.File.Tree
import CommandUrl.Link

/-!
# Looking at what a link leads to

A directory is a collection if it holds the file that every collection has at
its root, and a plain folder otherwise. A regular file is a script if the
extension of its name says so, in whatever case.
-/

namespace CommandUrl

/-- The file that every collection has at its root. -/
def collectionInfoFile : String := "- INFO.nnk"

/-- The extension of scripts. -/
def scriptExtension : String := "tcz"

/-- The path names a script by its extension. -/
def Path.isScript (path : Path) : Bool :=
  path.extension?.any fun extension =>
    extension.map Char.toLower = scriptExtension.toList

/-- The kind of thing that a link leads to. -/
def FileTree.classify (tree : FileTree) (link : Link) : LinkKind :=
  if tree.isDirectory link.path then
    if tree.isFile (Path.join link.path collectionInfoFile) then .collection else .folder
  else if tree.isFile link.path then
    if (Path.ofText link.path).isScript then .script else .file
  else
    .unknown

end CommandUrl
