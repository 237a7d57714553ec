import OneTable.Failure
import OneTable.Folder
import OneTable.Reader.Basic
import OneTable.Text.Shown

/-!
# Reading into a file

The unified table can be written to a file of the folder its items are in. The file is
emptied before anything else happens, and whatever was written when reading ends stays
there, also if it ends with a fault.

What is written goes through buffers, and an item is opened when its rows are due. So a
file that is an item itself is taken for an item without rows, and it is one as long as
less has been written before it is opened than the buffers hold. Of longer tables that are
written over one of their own items nothing is said here.

* `OneTable.FileRead` – what comes of reading into a file;
* `OneTable.Reader.readIntoFile` – reads into a file.
-/

namespace OneTable

/-- What comes of reading into a file. -/
structure FileRead where
  result : Except Fault Nat
  written : WrittenFile
  reader : Reader
  folder : Folder

/-- The failure to make a file. -/
def createFailure (path : String) (e : FileFault) : Failure :=
  (Failure.ofText e.message).inside ("Creating output file " ++ Text.shown path)

/-- **Reads the unified table of items into a file.** -/
def Reader.readIntoFile (r : Reader) (source : Folder → Source) (folder : Folder) (root : String)
    (items : List String) (path : String) (delimiter : UInt8) : Except Failure FileRead :=
  match folder.target path with
  | .error e => .error (createFailure path e)
  | .ok place =>
    let emptied := folder.put place []
    let (result, written, r) :=
      r.readInto (source emptied) root items (Sink.delimited delimiter) {}
    .ok ⟨result, written, r, emptied.put place written.bytes⟩

end OneTable
