import Unbundle.Bytes
/-
Defects: images that are metadata as far as they go, but break off where something must follow.

A file that is no image, or has no metadata, is refused. A defect is met later, when the image was taken for one with metadata,
and nothing can be said about such an image.
-/
namespace Unbundle.Metadata

/-- what is not there although something else says that it is -/
inductive Defect where
  /-- the metadata ends inside its signature -/
  | noSignature
  /-- the metadata has no streams -/
  | noStreams
  /-- the stream of tables ends inside the row counts -/
  | noCount
  /-- there is a table under a number that is kept free -/
  | reservedTable
  /-- a resource is a set of resources and ends early -/
  | cutResource
  /-- a table's rows are not in the stream -/
  | noRows (table : Nat)
  deriving DecidableEq, Repr

/-- the wording for a defect -/
def Defect.message : Defect → String
  | .noSignature => "the metadata ends inside its signature"
  | .noStreams => "the metadata has no streams"
  | .noCount => "a row count is missing"
  | .reservedTable => "there is a table under a reserved number"
  | .cutResource => "a set of resources ends early"
  | .noRows _ => "the rows of a table are missing"

end Unbundle.Metadata
