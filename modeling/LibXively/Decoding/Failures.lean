import LibXively.Decoding.Feeds

/-!
What a decoder leaves behind when it fails.

Both decoders write into the caller's object as they read, and neither of them undoes anything. A
datapoint is touched only behind a readable timestamp; a feed is touched up to the line the decoder
stops at.
-/

namespace LibXively.Failures

open LibXively.Bytes LibXively.CProc LibXively.CharArray LibXively.Structures LibXively.CsvData
open LibXively.Values LibXively.Datapoints LibXively.Feeds

variable {tg : Target} {t v : Text} {stamp : XiTimestamp} {e e' : XiErr} {p p' : XiDatapoint}

end LibXively.Failures
