/-!
# Buffered writing to a file

The annotated listing reaches its output file through two buffers, so another writer of the
same file (the trace or the log) sees its bytes arrive in blocks rather than line by line:

* written text is gathered until it would exceed `textChunk` bytes, when the gathered text
  is handed on first, or until it reaches `textChunk` bytes, when it is handed on at once;
* handed-on bytes are kept in a block of `blockSize` bytes while they fit; when they do not,
  the block is written out, and then the bytes are written out too if they exceed a block,
  or else start the next block;
* closing hands on the gathered text and writes out the block.

Each operation returns the writes that reach the file, in order.

## Main definitions

* `WriteBuffer`, `WriteBuffer.write`, `WriteBuffer.close`.
-/

namespace LuaListing

/-- How many bytes of text are gathered before they are handed on. -/
def textChunk : Nat := 8192

/-- How many bytes a block holds. -/
def blockSize : Nat := 4096

/-- Text gathered and bytes in the block, neither written yet. -/
structure WriteBuffer where
  /-- The gathered text, encoded. -/
  pending : List UInt8 := []
  /-- The bytes in the block. -/
  block : List UInt8 := []
  deriving DecidableEq, Repr, Inhabited

namespace WriteBuffer

/-- Add bytes to a block: the new block and the writes that reach the file. -/
def toBlock (block data : List UInt8) : List UInt8 × List (List UInt8) :=
  if data.length + block.length ≤ blockSize then (block ++ data, [])
  else
    let first := if block.isEmpty then [] else [block]
    if data.length > blockSize then ([], first ++ [data]) else (data, first)

/-- Hand the gathered text on to the block. -/
def handOn (w : WriteBuffer) : WriteBuffer × List (List UInt8) :=
  if w.pending.isEmpty then (w, [])
  else
    let (block, writes) := toBlock w.block w.pending
    ({ pending := [], block := block }, writes)

/-- Write a piece of text. -/
def write (w : WriteBuffer) (piece : List UInt8) : WriteBuffer × List (List UInt8) :=
  let (w1, writes1) := if w.pending.length + piece.length > textChunk then w.handOn else (w, [])
  let w2 := { w1 with pending := w1.pending ++ piece }
  if w2.pending.length ≥ textChunk then
    let (w3, writes3) := w2.handOn
    (w3, writes1 ++ writes3)
  else (w2, writes1)

/-- Close: everything still held is written. -/
def close (w : WriteBuffer) : List (List UInt8) :=
  let (w1, writes) := w.handOn
  writes ++ (if w1.block.isEmpty then [] else [w1.block])

end WriteBuffer

end LuaListing
