/-!
Lines of a byte stream. A line ends at a line feed, which is not part of it, and a carriage
return right before that line feed goes with it; any other carriage return stays. Bytes after
the last line feed form one more line when there are any. Each line is decoded as UTF-8 on its
own, when the reader reaches it.
-/

namespace PartialCnf

namespace Dimacs

/-- Splits at line feeds; `line` holds the current line reversed, `done` the lines before it
reversed. -/
def splitLines : List UInt8 → List UInt8 → List (List UInt8) → List (List UInt8)
  | [], line, done => (if line.isEmpty then done else line.reverse :: done).reverse
  | b :: bs, line, done =>
    if b = 10 then
      let line := match line with
        | 13 :: rest => rest
        | _ => line
      splitLines bs [] (line.reverse :: done)
    else splitLines bs (b :: line) done

/-- The lines of a byte stream. -/
def lines (bs : List UInt8) : List (List UInt8) :=
  splitLines bs [] []

def decodeLine (line : List UInt8) : Option (List Char) :=
  (String.fromUTF8? (ByteArray.mk line.toArray)).map String.toList

end Dimacs

end PartialCnf
