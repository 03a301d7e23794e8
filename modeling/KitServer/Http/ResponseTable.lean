import KitServer.Lib.ScanMachine

/-!
# The table of `httpclient_parser`

The machine that the generator made of `httpclient_parser.rl`, with its numbers for states (`st`)
and for jumps with actions (`tr`).  State 0 is the error state and 1 the start state.
-/

set_option linter.unusedVariables false

namespace KitServer
namespace Http
namespace Response

/-- the actions of `httpclient_parser.rl` -/
inductive Act where
  | mark
  | startField
  | writeField
  | startValue
  | writeContentLen
  | writeConnectionClose
  | writeValue
  | reasonPhrase
  | statusCode
  | httpVersion
  | chunkSize
  | transChunked
  | done
deriving DecidableEq

def start : Nat := 1
def error : Nat := 0
def firstFinal : Nat := 120

def tr : Nat → Trans Act
  | 0 => ⟨[.mark], 2, false⟩
  | 2 => ⟨[.mark], 8, false⟩
  | 3 => ⟨[.chunkSize, .done], 120, true⟩
  | 4 => ⟨[.chunkSize], 3, false⟩
  | 6 => ⟨[.chunkSize], 4, false⟩
  | 7 => ⟨[.done], 120, true⟩
  | 8 => ⟨[.startField], 5, false⟩
  | 9 => ⟨[.writeField, .startValue, .writeValue, .done], 120, true⟩
  | 10 => ⟨[.writeField, .startValue, .writeValue], 3, false⟩
  | 12 => ⟨[.writeField, .startValue, .writeValue], 4, false⟩
  | 13 => ⟨[.writeField, .startValue], 6, false⟩
  | 14 => ⟨[.startValue], 7, false⟩
  | 15 => ⟨[.writeValue, .done], 120, true⟩
  | 16 => ⟨[.writeValue], 3, false⟩
  | 18 => ⟨[.writeValue], 4, false⟩
  | 26 => ⟨[.httpVersion], 16, false⟩
  | 27 => ⟨[.mark], 17, false⟩
  | 28 => ⟨[.statusCode], 18, false⟩
  | 30 => ⟨[.mark], 19, false⟩
  | 32 => ⟨[.reasonPhrase], 20, false⟩
  | 33 => ⟨[.reasonPhrase], 24, false⟩
  | 35 => ⟨[.startField], 21, false⟩
  | 36 => ⟨[.startField], 25, false⟩
  | 37 => ⟨[.startField], 44, false⟩
  | 39 => ⟨[.writeField], 22, false⟩
  | 40 => ⟨[.startValue], 23, false⟩
  | 41 => ⟨[.startValue], 22, false⟩
  | 42 => ⟨[.startValue, .writeValue], 20, false⟩
  | 43 => ⟨[.startValue, .writeValue], 24, false⟩
  | 45 => ⟨[.writeValue], 20, false⟩
  | 46 => ⟨[.writeValue], 24, false⟩
  | 58 => ⟨[.writeField], 35, false⟩
  | 59 => ⟨[.startValue], 35, false⟩
  | 60 => ⟨[.startValue, .writeValue], 36, false⟩
  | 61 => ⟨[.startValue, .writeValue], 95, false⟩
  | 62 => ⟨[.startValue], 96, false⟩
  | 64 => ⟨[.done], 122, true⟩
  | 66 => ⟨[.startField], 90, false⟩
  | 74 => ⟨[.writeConnectionClose, .done], 120, true⟩
  | 75 => ⟨[.writeConnectionClose], 3, false⟩
  | 76 => ⟨[.writeConnectionClose, .startField], 21, false⟩
  | 77 => ⟨[.writeConnectionClose, .startField], 25, false⟩
  | 78 => ⟨[.writeConnectionClose, .startField], 44, false⟩
  | 95 => ⟨[.writeField], 61, false⟩
  | 96 => ⟨[.startValue], 61, false⟩
  | 97 => ⟨[.startValue, .writeValue], 62, false⟩
  | 98 => ⟨[.startValue, .writeValue], 80, false⟩
  | 99 => ⟨[.startValue], 81, false⟩
  | 101 => ⟨[.done], 121, true⟩
  | 103 => ⟨[.startValue, .startField], 73, false⟩
  | 104 => ⟨[.startValue], 64, false⟩
  | 111 => ⟨[.writeValue, .transChunked], 20, false⟩
  | 112 => ⟨[.writeValue], 71, false⟩
  | 113 => ⟨[.transChunked], 20, false⟩
  | 136 => ⟨[.writeValue], 43, false⟩
  | 137 => ⟨[.writeValue], 88, false⟩
  | 148 => ⟨[.writeField], 112, false⟩
  | 149 => ⟨[.startValue], 112, false⟩
  | 150 => ⟨[.startValue, .writeValue], 113, false⟩
  | 151 => ⟨[.startValue, .writeValue], 118, false⟩
  | 152 => ⟨[.startValue], 119, false⟩
  | 154 => ⟨[.done], 123, true⟩
  | 156 => ⟨[.startValue, .startField], 117, false⟩
  | 157 => ⟨[.startValue], 115, false⟩
  | 158 => ⟨[.writeContentLen, .writeValue], 20, false⟩
  | 159 => ⟨[.writeContentLen, .writeValue], 24, false⟩
  | _ => ⟨[], 0, false⟩

def rows : List (List Range) :=
  [[],
  [⟨48, 57, .tr 0⟩, ⟨65, 70, .tr 0⟩, ⟨72, 72, .tr 2⟩, ⟨97, 102, .tr 0⟩],
  [⟨10, 10, .tr 3⟩, ⟨13, 13, .tr 4⟩, ⟨48, 57, .st 2⟩, ⟨59, 59, .tr 6⟩, ⟨65, 70, .st 2⟩,
    ⟨97, 102, .st 2⟩],
  [⟨10, 10, .tr 7⟩],
  [⟨33, 33, .tr 8⟩, ⟨35, 39, .tr 8⟩, ⟨42, 43, .tr 8⟩, ⟨45, 46, .tr 8⟩, ⟨48, 57, .tr 8⟩,
    ⟨65, 90, .tr 8⟩, ⟨94, 122, .tr 8⟩, ⟨124, 124, .tr 8⟩, ⟨126, 126, .tr 8⟩],
  [⟨10, 10, .tr 9⟩, ⟨13, 13, .tr 10⟩, ⟨33, 33, .st 5⟩, ⟨35, 39, .st 5⟩, ⟨42, 43, .st 5⟩,
    ⟨45, 46, .st 5⟩, ⟨48, 57, .st 5⟩, ⟨59, 59, .tr 12⟩, ⟨61, 61, .tr 13⟩, ⟨65, 90, .st 5⟩,
    ⟨94, 122, .st 5⟩, ⟨124, 124, .st 5⟩, ⟨126, 126, .st 5⟩],
  [⟨33, 33, .tr 14⟩, ⟨35, 39, .tr 14⟩, ⟨42, 43, .tr 14⟩, ⟨45, 46, .tr 14⟩, ⟨48, 57, .tr 14⟩,
    ⟨65, 90, .tr 14⟩, ⟨94, 122, .tr 14⟩, ⟨124, 124, .tr 14⟩, ⟨126, 126, .tr 14⟩],
  [⟨10, 10, .tr 15⟩, ⟨13, 13, .tr 16⟩, ⟨33, 33, .st 7⟩, ⟨35, 39, .st 7⟩, ⟨42, 43, .st 7⟩,
    ⟨45, 46, .st 7⟩, ⟨48, 57, .st 7⟩, ⟨59, 59, .tr 18⟩, ⟨65, 90, .st 7⟩, ⟨94, 122, .st 7⟩,
    ⟨124, 124, .st 7⟩, ⟨126, 126, .st 7⟩],
  [⟨84, 84, .st 9⟩],
  [⟨84, 84, .st 10⟩],
  [⟨80, 80, .st 11⟩],
  [⟨47, 47, .st 12⟩],
  [⟨48, 57, .st 13⟩],
  [⟨46, 46, .st 14⟩, ⟨48, 57, .st 13⟩],
  [⟨48, 57, .st 15⟩],
  [⟨32, 32, .tr 26⟩, ⟨48, 57, .st 15⟩],
  [⟨48, 57, .tr 27⟩],
  [⟨32, 32, .tr 28⟩, ⟨48, 57, .st 17⟩],
  [⟨0, 9, .tr 30⟩, ⟨11, 255, .tr 30⟩],
  [⟨0, 9, .st 19⟩, ⟨10, 10, .tr 32⟩, ⟨11, 12, .st 19⟩, ⟨13, 13, .tr 33⟩, ⟨14, 255, .st 19⟩],
  [⟨10, 10, .tr 7⟩, ⟨13, 13, .st 3⟩, ⟨33, 33, .tr 35⟩, ⟨35, 39, .tr 35⟩, ⟨42, 43, .tr 35⟩,
    ⟨45, 46, .tr 35⟩, ⟨48, 57, .tr 35⟩, ⟨65, 66, .tr 35⟩, ⟨67, 67, .tr 36⟩, ⟨68, 83, .tr 35⟩,
    ⟨84, 84, .tr 37⟩, ⟨85, 90, .tr 35⟩, ⟨94, 98, .tr 35⟩, ⟨99, 99, .tr 36⟩, ⟨100, 115, .tr 35⟩,
    ⟨116, 116, .tr 37⟩, ⟨117, 122, .tr 35⟩, ⟨124, 124, .tr 35⟩, ⟨126, 126, .tr 35⟩],
  [⟨33, 33, .st 21⟩, ⟨35, 39, .st 21⟩, ⟨42, 43, .st 21⟩, ⟨45, 46, .st 21⟩, ⟨48, 57, .st 21⟩,
    ⟨58, 58, .tr 39⟩, ⟨65, 90, .st 21⟩, ⟨94, 122, .st 21⟩, ⟨124, 124, .st 21⟩,
    ⟨126, 126, .st 21⟩],
  [⟨0, 8, .tr 40⟩, ⟨9, 9, .tr 41⟩, ⟨10, 10, .tr 42⟩, ⟨11, 12, .tr 41⟩, ⟨13, 13, .tr 43⟩,
    ⟨14, 31, .tr 40⟩, ⟨32, 32, .tr 41⟩, ⟨33, 255, .tr 40⟩],
  [⟨0, 9, .st 23⟩, ⟨10, 10, .tr 45⟩, ⟨11, 12, .st 23⟩, ⟨13, 13, .tr 46⟩, ⟨14, 255, .st 23⟩],
  [⟨10, 10, .st 20⟩],
  [⟨33, 33, .st 21⟩, ⟨35, 39, .st 21⟩, ⟨42, 43, .st 21⟩, ⟨45, 46, .st 21⟩, ⟨48, 57, .st 21⟩,
    ⟨58, 58, .tr 39⟩, ⟨65, 78, .st 21⟩, ⟨79, 79, .st 26⟩, ⟨80, 90, .st 21⟩, ⟨94, 110, .st 21⟩,
    ⟨111, 111, .st 26⟩, ⟨112, 122, .st 21⟩, ⟨124, 124, .st 21⟩, ⟨126, 126, .st 21⟩],
  [⟨33, 33, .st 21⟩, ⟨35, 39, .st 21⟩, ⟨42, 43, .st 21⟩, ⟨45, 46, .st 21⟩, ⟨48, 57, .st 21⟩,
    ⟨58, 58, .tr 39⟩, ⟨65, 77, .st 21⟩, ⟨78, 78, .st 27⟩, ⟨79, 90, .st 21⟩, ⟨94, 109, .st 21⟩,
    ⟨110, 110, .st 27⟩, ⟨111, 122, .st 21⟩, ⟨124, 124, .st 21⟩, ⟨126, 126, .st 21⟩],
  [⟨33, 33, .st 21⟩, ⟨35, 39, .st 21⟩, ⟨42, 43, .st 21⟩, ⟨45, 46, .st 21⟩, ⟨48, 57, .st 21⟩,
    ⟨58, 58, .tr 39⟩, ⟨65, 77, .st 21⟩, ⟨78, 78, .st 28⟩, ⟨79, 83, .st 21⟩, ⟨84, 84, .st 101⟩,
    ⟨85, 90, .st 21⟩, ⟨94, 109, .st 21⟩, ⟨110, 110, .st 28⟩, ⟨111, 115, .st 21⟩,
    ⟨116, 116, .st 101⟩, ⟨117, 122, .st 21⟩, ⟨124, 124, .st 21⟩, ⟨126, 126, .st 21⟩],
  [⟨33, 33, .st 21⟩, ⟨35, 39, .st 21⟩, ⟨42, 43, .st 21⟩, ⟨45, 46, .st 21⟩, ⟨48, 57, .st 21⟩,
    ⟨58, 58, .tr 39⟩, ⟨65, 68, .st 21⟩, ⟨69, 69, .st 29⟩, ⟨70, 90, .st 21⟩, ⟨94, 100, .st 21⟩,
    ⟨101, 101, .st 29⟩, ⟨102, 122, .st 21⟩, ⟨124, 124, .st 21⟩, ⟨126, 126, .st 21⟩],
  [⟨33, 33, .st 21⟩, ⟨35, 39, .st 21⟩, ⟨42, 43, .st 21⟩, ⟨45, 46, .st 21⟩, ⟨48, 57, .st 21⟩,
    ⟨58, 58, .tr 39⟩, ⟨65, 66, .st 21⟩, ⟨67, 67, .st 30⟩, ⟨68, 90, .st 21⟩, ⟨94, 98, .st 21⟩,
    ⟨99, 99, .st 30⟩, ⟨100, 122, .st 21⟩, ⟨124, 124, .st 21⟩, ⟨126, 126, .st 21⟩],
  [⟨33, 33, .st 21⟩, ⟨35, 39, .st 21⟩, ⟨42, 43, .st 21⟩, ⟨45, 46, .st 21⟩, ⟨48, 57, .st 21⟩,
    ⟨58, 58, .tr 39⟩, ⟨65, 83, .st 21⟩, ⟨84, 84, .st 31⟩, ⟨85, 90, .st 21⟩, ⟨94, 115, .st 21⟩,
    ⟨116, 116, .st 31⟩, ⟨117, 122, .st 21⟩, ⟨124, 124, .st 21⟩, ⟨126, 126, .st 21⟩],
  [⟨33, 33, .st 21⟩, ⟨35, 39, .st 21⟩, ⟨42, 43, .st 21⟩, ⟨45, 46, .st 21⟩, ⟨48, 57, .st 21⟩,
    ⟨58, 58, .tr 39⟩, ⟨65, 72, .st 21⟩, ⟨73, 73, .st 32⟩, ⟨74, 90, .st 21⟩, ⟨94, 104, .st 21⟩,
    ⟨105, 105, .st 32⟩, ⟨106, 122, .st 21⟩, ⟨124, 124, .st 21⟩, ⟨126, 126, .st 21⟩],
  [⟨33, 33, .st 21⟩, ⟨35, 39, .st 21⟩, ⟨42, 43, .st 21⟩, ⟨45, 46, .st 21⟩, ⟨48, 57, .st 21⟩,
    ⟨58, 58, .tr 39⟩, ⟨65, 78, .st 21⟩, ⟨79, 79, .st 33⟩, ⟨80, 90, .st 21⟩, ⟨94, 110, .st 21⟩,
    ⟨111, 111, .st 33⟩, ⟨112, 122, .st 21⟩, ⟨124, 124, .st 21⟩, ⟨126, 126, .st 21⟩],
  [⟨33, 33, .st 21⟩, ⟨35, 39, .st 21⟩, ⟨42, 43, .st 21⟩, ⟨45, 46, .st 21⟩, ⟨48, 57, .st 21⟩,
    ⟨58, 58, .tr 39⟩, ⟨65, 77, .st 21⟩, ⟨78, 78, .st 34⟩, ⟨79, 90, .st 21⟩, ⟨94, 109, .st 21⟩,
    ⟨110, 110, .st 34⟩, ⟨111, 122, .st 21⟩, ⟨124, 124, .st 21⟩, ⟨126, 126, .st 21⟩],
  [⟨33, 33, .st 21⟩, ⟨35, 39, .st 21⟩, ⟨42, 43, .st 21⟩, ⟨45, 46, .st 21⟩, ⟨48, 57, .st 21⟩,
    ⟨58, 58, .tr 58⟩, ⟨65, 90, .st 21⟩, ⟨94, 122, .st 21⟩, ⟨124, 124, .st 21⟩,
    ⟨126, 126, .st 21⟩],
  [⟨0, 8, .tr 40⟩, ⟨9, 9, .tr 59⟩, ⟨10, 10, .tr 60⟩, ⟨11, 12, .tr 59⟩, ⟨13, 13, .tr 61⟩,
    ⟨14, 31, .tr 40⟩, ⟨32, 32, .tr 59⟩, ⟨33, 66, .tr 40⟩, ⟨67, 67, .tr 62⟩, ⟨68, 98, .tr 40⟩,
    ⟨99, 99, .tr 62⟩, ⟨100, 255, .tr 40⟩],
  [⟨9, 9, .st 37⟩, ⟨10, 10, .tr 64⟩, ⟨11, 12, .st 37⟩, ⟨13, 13, .st 89⟩, ⟨32, 32, .st 37⟩,
    ⟨33, 33, .tr 35⟩, ⟨35, 39, .tr 35⟩, ⟨42, 43, .tr 35⟩, ⟨45, 46, .tr 35⟩, ⟨48, 57, .tr 35⟩,
    ⟨65, 66, .tr 35⟩, ⟨67, 67, .tr 66⟩, ⟨68, 83, .tr 35⟩, ⟨84, 84, .tr 37⟩, ⟨85, 90, .tr 35⟩,
    ⟨94, 98, .tr 35⟩, ⟨99, 99, .tr 66⟩, ⟨100, 115, .tr 35⟩, ⟨116, 116, .tr 37⟩,
    ⟨117, 122, .tr 35⟩, ⟨124, 124, .tr 35⟩, ⟨126, 126, .tr 35⟩],
  [⟨9, 13, .st 37⟩, ⟨32, 32, .st 37⟩, ⟨67, 67, .st 38⟩, ⟨99, 99, .st 38⟩],
  [⟨76, 76, .st 39⟩, ⟨108, 108, .st 39⟩],
  [⟨79, 79, .st 40⟩, ⟨111, 111, .st 40⟩],
  [⟨83, 83, .st 41⟩, ⟨115, 115, .st 41⟩],
  [⟨69, 69, .st 42⟩, ⟨101, 101, .st 42⟩],
  [⟨10, 10, .st 43⟩, ⟨13, 13, .st 88⟩],
  [⟨10, 10, .tr 74⟩, ⟨13, 13, .tr 75⟩, ⟨33, 33, .tr 76⟩, ⟨35, 39, .tr 76⟩, ⟨42, 43, .tr 76⟩,
    ⟨45, 46, .tr 76⟩, ⟨48, 57, .tr 76⟩, ⟨65, 66, .tr 76⟩, ⟨67, 67, .tr 77⟩, ⟨68, 83, .tr 76⟩,
    ⟨84, 84, .tr 78⟩, ⟨85, 90, .tr 76⟩, ⟨94, 98, .tr 76⟩, ⟨99, 99, .tr 77⟩, ⟨100, 115, .tr 76⟩,
    ⟨116, 116, .tr 78⟩, ⟨117, 122, .tr 76⟩, ⟨124, 124, .tr 76⟩, ⟨126, 126, .tr 76⟩],
  [⟨33, 33, .st 21⟩, ⟨35, 39, .st 21⟩, ⟨42, 43, .st 21⟩, ⟨45, 46, .st 21⟩, ⟨48, 57, .st 21⟩,
    ⟨58, 58, .tr 39⟩, ⟨65, 81, .st 21⟩, ⟨82, 82, .st 45⟩, ⟨83, 90, .st 21⟩, ⟨94, 113, .st 21⟩,
    ⟨114, 114, .st 45⟩, ⟨115, 122, .st 21⟩, ⟨124, 124, .st 21⟩, ⟨126, 126, .st 21⟩],
  [⟨33, 33, .st 21⟩, ⟨35, 39, .st 21⟩, ⟨42, 43, .st 21⟩, ⟨45, 46, .st 21⟩, ⟨48, 57, .st 21⟩,
    ⟨58, 58, .tr 39⟩, ⟨65, 65, .st 46⟩, ⟨66, 90, .st 21⟩, ⟨94, 96, .st 21⟩, ⟨97, 97, .st 46⟩,
    ⟨98, 122, .st 21⟩, ⟨124, 124, .st 21⟩, ⟨126, 126, .st 21⟩],
  [⟨33, 33, .st 21⟩, ⟨35, 39, .st 21⟩, ⟨42, 43, .st 21⟩, ⟨45, 46, .st 21⟩, ⟨48, 57, .st 21⟩,
    ⟨58, 58, .tr 39⟩, ⟨65, 77, .st 21⟩, ⟨78, 78, .st 47⟩, ⟨79, 90, .st 21⟩, ⟨94, 109, .st 21⟩,
    ⟨110, 110, .st 47⟩, ⟨111, 122, .st 21⟩, ⟨124, 124, .st 21⟩, ⟨126, 126, .st 21⟩],
  [⟨33, 33, .st 21⟩, ⟨35, 39, .st 21⟩, ⟨42, 43, .st 21⟩, ⟨45, 46, .st 21⟩, ⟨48, 57, .st 21⟩,
    ⟨58, 58, .tr 39⟩, ⟨65, 82, .st 21⟩, ⟨83, 83, .st 48⟩, ⟨84, 90, .st 21⟩, ⟨94, 114, .st 21⟩,
    ⟨115, 115, .st 48⟩, ⟨116, 122, .st 21⟩, ⟨124, 124, .st 21⟩, ⟨126, 126, .st 21⟩],
  [⟨33, 33, .st 21⟩, ⟨35, 39, .st 21⟩, ⟨42, 43, .st 21⟩, ⟨45, 46, .st 21⟩, ⟨48, 57, .st 21⟩,
    ⟨58, 58, .tr 39⟩, ⟨65, 69, .st 21⟩, ⟨70, 70, .st 49⟩, ⟨71, 90, .st 21⟩, ⟨94, 101, .st 21⟩,
    ⟨102, 102, .st 49⟩, ⟨103, 122, .st 21⟩, ⟨124, 124, .st 21⟩, ⟨126, 126, .st 21⟩],
  [⟨33, 33, .st 21⟩, ⟨35, 39, .st 21⟩, ⟨42, 43, .st 21⟩, ⟨45, 46, .st 21⟩, ⟨48, 57, .st 21⟩,
    ⟨58, 58, .tr 39⟩, ⟨65, 68, .st 21⟩, ⟨69, 69, .st 50⟩, ⟨70, 90, .st 21⟩, ⟨94, 100, .st 21⟩,
    ⟨101, 101, .st 50⟩, ⟨102, 122, .st 21⟩, ⟨124, 124, .st 21⟩, ⟨126, 126, .st 21⟩],
  [⟨33, 33, .st 21⟩, ⟨35, 39, .st 21⟩, ⟨42, 43, .st 21⟩, ⟨45, 46, .st 21⟩, ⟨48, 57, .st 21⟩,
    ⟨58, 58, .tr 39⟩, ⟨65, 81, .st 21⟩, ⟨82, 82, .st 51⟩, ⟨83, 90, .st 21⟩, ⟨94, 113, .st 21⟩,
    ⟨114, 114, .st 51⟩, ⟨115, 122, .st 21⟩, ⟨124, 124, .st 21⟩, ⟨126, 126, .st 21⟩],
  [⟨33, 33, .st 21⟩, ⟨35, 39, .st 21⟩, ⟨42, 43, .st 21⟩, ⟨45, 45, .st 52⟩, ⟨46, 46, .st 21⟩,
    ⟨48, 57, .st 21⟩, ⟨58, 58, .tr 39⟩, ⟨65, 90, .st 21⟩, ⟨94, 122, .st 21⟩, ⟨124, 124, .st 21⟩,
    ⟨126, 126, .st 21⟩],
  [⟨33, 33, .st 21⟩, ⟨35, 39, .st 21⟩, ⟨42, 43, .st 21⟩, ⟨45, 46, .st 21⟩, ⟨48, 57, .st 21⟩,
    ⟨58, 58, .tr 39⟩, ⟨65, 68, .st 21⟩, ⟨69, 69, .st 53⟩, ⟨70, 90, .st 21⟩, ⟨94, 100, .st 21⟩,
    ⟨101, 101, .st 53⟩, ⟨102, 122, .st 21⟩, ⟨124, 124, .st 21⟩, ⟨126, 126, .st 21⟩],
  [⟨33, 33, .st 21⟩, ⟨35, 39, .st 21⟩, ⟨42, 43, .st 21⟩, ⟨45, 46, .st 21⟩, ⟨48, 57, .st 21⟩,
    ⟨58, 58, .tr 39⟩, ⟨65, 77, .st 21⟩, ⟨78, 78, .st 54⟩, ⟨79, 90, .st 21⟩, ⟨94, 109, .st 21⟩,
    ⟨110, 110, .st 54⟩, ⟨111, 122, .st 21⟩, ⟨124, 124, .st 21⟩, ⟨126, 126, .st 21⟩],
  [⟨33, 33, .st 21⟩, ⟨35, 39, .st 21⟩, ⟨42, 43, .st 21⟩, ⟨45, 46, .st 21⟩, ⟨48, 57, .st 21⟩,
    ⟨58, 58, .tr 39⟩, ⟨65, 66, .st 21⟩, ⟨67, 67, .st 55⟩, ⟨68, 90, .st 21⟩, ⟨94, 98, .st 21⟩,
    ⟨99, 99, .st 55⟩, ⟨100, 122, .st 21⟩, ⟨124, 124, .st 21⟩, ⟨126, 126, .st 21⟩],
  [⟨33, 33, .st 21⟩, ⟨35, 39, .st 21⟩, ⟨42, 43, .st 21⟩, ⟨45, 46, .st 21⟩, ⟨48, 57, .st 21⟩,
    ⟨58, 58, .tr 39⟩, ⟨65, 78, .st 21⟩, ⟨79, 79, .st 56⟩, ⟨80, 90, .st 21⟩, ⟨94, 110, .st 21⟩,
    ⟨111, 111, .st 56⟩, ⟨112, 122, .st 21⟩, ⟨124, 124, .st 21⟩, ⟨126, 126, .st 21⟩],
  [⟨33, 33, .st 21⟩, ⟨35, 39, .st 21⟩, ⟨42, 43, .st 21⟩, ⟨45, 46, .st 21⟩, ⟨48, 57, .st 21⟩,
    ⟨58, 58, .tr 39⟩, ⟨65, 67, .st 21⟩, ⟨68, 68, .st 57⟩, ⟨69, 90, .st 21⟩, ⟨94, 99, .st 21⟩,
    ⟨100, 100, .st 57⟩, ⟨101, 122, .st 21⟩, ⟨124, 124, .st 21⟩, ⟨126, 126, .st 21⟩],
  [⟨33, 33, .st 21⟩, ⟨35, 39, .st 21⟩, ⟨42, 43, .st 21⟩, ⟨45, 46, .st 21⟩, ⟨48, 57, .st 21⟩,
    ⟨58, 58, .tr 39⟩, ⟨65, 72, .st 21⟩, ⟨73, 73, .st 58⟩, ⟨74, 90, .st 21⟩, ⟨94, 104, .st 21⟩,
    ⟨105, 105, .st 58⟩, ⟨106, 122, .st 21⟩, ⟨124, 124, .st 21⟩, ⟨126, 126, .st 21⟩],
  [⟨33, 33, .st 21⟩, ⟨35, 39, .st 21⟩, ⟨42, 43, .st 21⟩, ⟨45, 46, .st 21⟩, ⟨48, 57, .st 21⟩,
    ⟨58, 58, .tr 39⟩, ⟨65, 77, .st 21⟩, ⟨78, 78, .st 59⟩, ⟨79, 90, .st 21⟩, ⟨94, 109, .st 21⟩,
    ⟨110, 110, .st 59⟩, ⟨111, 122, .st 21⟩, ⟨124, 124, .st 21⟩, ⟨126, 126, .st 21⟩],
  [⟨33, 33, .st 21⟩, ⟨35, 39, .st 21⟩, ⟨42, 43, .st 21⟩, ⟨45, 46, .st 21⟩, ⟨48, 57, .st 21⟩,
    ⟨58, 58, .tr 39⟩, ⟨65, 70, .st 21⟩, ⟨71, 71, .st 60⟩, ⟨72, 90, .st 21⟩, ⟨94, 102, .st 21⟩,
    ⟨103, 103, .st 60⟩, ⟨104, 122, .st 21⟩, ⟨124, 124, .st 21⟩, ⟨126, 126, .st 21⟩],
  [⟨33, 33, .st 21⟩, ⟨35, 39, .st 21⟩, ⟨42, 43, .st 21⟩, ⟨45, 46, .st 21⟩, ⟨48, 57, .st 21⟩,
    ⟨58, 58, .tr 95⟩, ⟨65, 90, .st 21⟩, ⟨94, 122, .st 21⟩, ⟨124, 124, .st 21⟩,
    ⟨126, 126, .st 21⟩],
  [⟨0, 8, .tr 40⟩, ⟨9, 9, .tr 96⟩, ⟨10, 10, .tr 97⟩, ⟨11, 12, .tr 96⟩, ⟨13, 13, .tr 98⟩,
    ⟨14, 31, .tr 40⟩, ⟨32, 32, .tr 96⟩, ⟨33, 66, .tr 40⟩, ⟨67, 67, .tr 99⟩, ⟨68, 98, .tr 40⟩,
    ⟨99, 99, .tr 99⟩, ⟨100, 255, .tr 40⟩],
  [⟨9, 9, .st 63⟩, ⟨10, 10, .tr 101⟩, ⟨11, 12, .st 63⟩, ⟨13, 13, .st 72⟩, ⟨32, 32, .st 63⟩,
    ⟨33, 33, .tr 35⟩, ⟨35, 39, .tr 35⟩, ⟨42, 43, .tr 35⟩, ⟨45, 46, .tr 35⟩, ⟨48, 57, .tr 35⟩,
    ⟨65, 66, .tr 35⟩, ⟨67, 67, .tr 103⟩, ⟨68, 83, .tr 35⟩, ⟨84, 84, .tr 37⟩, ⟨85, 90, .tr 35⟩,
    ⟨94, 98, .tr 35⟩, ⟨99, 99, .tr 103⟩, ⟨100, 115, .tr 35⟩, ⟨116, 116, .tr 37⟩,
    ⟨117, 122, .tr 35⟩, ⟨124, 124, .tr 35⟩, ⟨126, 126, .tr 35⟩],
  [⟨9, 13, .st 63⟩, ⟨32, 32, .st 63⟩, ⟨67, 67, .tr 104⟩, ⟨99, 99, .tr 104⟩],
  [⟨72, 72, .st 65⟩, ⟨104, 104, .st 65⟩],
  [⟨85, 85, .st 66⟩, ⟨117, 117, .st 66⟩],
  [⟨78, 78, .st 67⟩, ⟨110, 110, .st 67⟩],
  [⟨75, 75, .st 68⟩, ⟨107, 107, .st 68⟩],
  [⟨69, 69, .st 69⟩, ⟨101, 101, .st 69⟩],
  [⟨68, 68, .st 70⟩, ⟨100, 100, .st 70⟩],
  [⟨10, 10, .tr 111⟩, ⟨13, 13, .tr 112⟩],
  [⟨10, 10, .tr 113⟩],
  [⟨9, 9, .st 63⟩, ⟨10, 10, .tr 101⟩, ⟨11, 13, .st 63⟩, ⟨32, 32, .st 63⟩, ⟨67, 67, .tr 104⟩,
    ⟨99, 99, .tr 104⟩],
  [⟨33, 33, .st 21⟩, ⟨35, 39, .st 21⟩, ⟨42, 43, .st 21⟩, ⟨45, 46, .st 21⟩, ⟨48, 57, .st 21⟩,
    ⟨58, 58, .tr 39⟩, ⟨65, 71, .st 21⟩, ⟨72, 72, .st 74⟩, ⟨73, 78, .st 21⟩, ⟨79, 79, .st 26⟩,
    ⟨80, 90, .st 21⟩, ⟨94, 103, .st 21⟩, ⟨104, 104, .st 74⟩, ⟨105, 110, .st 21⟩,
    ⟨111, 111, .st 26⟩, ⟨112, 122, .st 21⟩, ⟨124, 124, .st 21⟩, ⟨126, 126, .st 21⟩],
  [⟨33, 33, .st 21⟩, ⟨35, 39, .st 21⟩, ⟨42, 43, .st 21⟩, ⟨45, 46, .st 21⟩, ⟨48, 57, .st 21⟩,
    ⟨58, 58, .tr 39⟩, ⟨65, 84, .st 21⟩, ⟨85, 85, .st 75⟩, ⟨86, 90, .st 21⟩, ⟨94, 116, .st 21⟩,
    ⟨117, 117, .st 75⟩, ⟨118, 122, .st 21⟩, ⟨124, 124, .st 21⟩, ⟨126, 126, .st 21⟩],
  [⟨33, 33, .st 21⟩, ⟨35, 39, .st 21⟩, ⟨42, 43, .st 21⟩, ⟨45, 46, .st 21⟩, ⟨48, 57, .st 21⟩,
    ⟨58, 58, .tr 39⟩, ⟨65, 77, .st 21⟩, ⟨78, 78, .st 76⟩, ⟨79, 90, .st 21⟩, ⟨94, 109, .st 21⟩,
    ⟨110, 110, .st 76⟩, ⟨111, 122, .st 21⟩, ⟨124, 124, .st 21⟩, ⟨126, 126, .st 21⟩],
  [⟨33, 33, .st 21⟩, ⟨35, 39, .st 21⟩, ⟨42, 43, .st 21⟩, ⟨45, 46, .st 21⟩, ⟨48, 57, .st 21⟩,
    ⟨58, 58, .tr 39⟩, ⟨65, 74, .st 21⟩, ⟨75, 75, .st 77⟩, ⟨76, 90, .st 21⟩, ⟨94, 106, .st 21⟩,
    ⟨107, 107, .st 77⟩, ⟨108, 122, .st 21⟩, ⟨124, 124, .st 21⟩, ⟨126, 126, .st 21⟩],
  [⟨33, 33, .st 21⟩, ⟨35, 39, .st 21⟩, ⟨42, 43, .st 21⟩, ⟨45, 46, .st 21⟩, ⟨48, 57, .st 21⟩,
    ⟨58, 58, .tr 39⟩, ⟨65, 68, .st 21⟩, ⟨69, 69, .st 78⟩, ⟨70, 90, .st 21⟩, ⟨94, 100, .st 21⟩,
    ⟨101, 101, .st 78⟩, ⟨102, 122, .st 21⟩, ⟨124, 124, .st 21⟩, ⟨126, 126, .st 21⟩],
  [⟨33, 33, .st 21⟩, ⟨35, 39, .st 21⟩, ⟨42, 43, .st 21⟩, ⟨45, 46, .st 21⟩, ⟨48, 57, .st 21⟩,
    ⟨58, 58, .tr 39⟩, ⟨65, 67, .st 21⟩, ⟨68, 68, .st 79⟩, ⟨69, 90, .st 21⟩, ⟨94, 99, .st 21⟩,
    ⟨100, 100, .st 79⟩, ⟨101, 122, .st 21⟩, ⟨124, 124, .st 21⟩, ⟨126, 126, .st 21⟩],
  [⟨10, 10, .tr 111⟩, ⟨13, 13, .tr 112⟩, ⟨33, 33, .st 21⟩, ⟨35, 39, .st 21⟩, ⟨42, 43, .st 21⟩,
    ⟨45, 46, .st 21⟩, ⟨48, 57, .st 21⟩, ⟨58, 58, .tr 39⟩, ⟨65, 90, .st 21⟩, ⟨94, 122, .st 21⟩,
    ⟨124, 124, .st 21⟩, ⟨126, 126, .st 21⟩],
  [⟨9, 9, .st 63⟩, ⟨10, 10, .st 62⟩, ⟨11, 13, .st 63⟩, ⟨32, 32, .st 63⟩, ⟨67, 67, .tr 104⟩,
    ⟨99, 99, .tr 104⟩],
  [⟨0, 9, .st 23⟩, ⟨10, 10, .tr 45⟩, ⟨11, 12, .st 23⟩, ⟨13, 13, .tr 46⟩, ⟨14, 71, .st 23⟩,
    ⟨72, 72, .st 82⟩, ⟨73, 103, .st 23⟩, ⟨104, 104, .st 82⟩, ⟨105, 255, .st 23⟩],
  [⟨0, 9, .st 23⟩, ⟨10, 10, .tr 45⟩, ⟨11, 12, .st 23⟩, ⟨13, 13, .tr 46⟩, ⟨14, 84, .st 23⟩,
    ⟨85, 85, .st 83⟩, ⟨86, 116, .st 23⟩, ⟨117, 117, .st 83⟩, ⟨118, 255, .st 23⟩],
  [⟨0, 9, .st 23⟩, ⟨10, 10, .tr 45⟩, ⟨11, 12, .st 23⟩, ⟨13, 13, .tr 46⟩, ⟨14, 77, .st 23⟩,
    ⟨78, 78, .st 84⟩, ⟨79, 109, .st 23⟩, ⟨110, 110, .st 84⟩, ⟨111, 255, .st 23⟩],
  [⟨0, 9, .st 23⟩, ⟨10, 10, .tr 45⟩, ⟨11, 12, .st 23⟩, ⟨13, 13, .tr 46⟩, ⟨14, 74, .st 23⟩,
    ⟨75, 75, .st 85⟩, ⟨76, 106, .st 23⟩, ⟨107, 107, .st 85⟩, ⟨108, 255, .st 23⟩],
  [⟨0, 9, .st 23⟩, ⟨10, 10, .tr 45⟩, ⟨11, 12, .st 23⟩, ⟨13, 13, .tr 46⟩, ⟨14, 68, .st 23⟩,
    ⟨69, 69, .st 86⟩, ⟨70, 100, .st 23⟩, ⟨101, 101, .st 86⟩, ⟨102, 255, .st 23⟩],
  [⟨0, 9, .st 23⟩, ⟨10, 10, .tr 45⟩, ⟨11, 12, .st 23⟩, ⟨13, 13, .tr 46⟩, ⟨14, 67, .st 23⟩,
    ⟨68, 68, .st 87⟩, ⟨69, 99, .st 23⟩, ⟨100, 100, .st 87⟩, ⟨101, 255, .st 23⟩],
  [⟨0, 9, .st 23⟩, ⟨10, 10, .tr 111⟩, ⟨11, 12, .st 23⟩, ⟨13, 13, .tr 112⟩, ⟨14, 255, .st 23⟩],
  [⟨10, 10, .st 43⟩],
  [⟨9, 9, .st 37⟩, ⟨10, 10, .tr 64⟩, ⟨11, 13, .st 37⟩, ⟨32, 32, .st 37⟩, ⟨67, 67, .st 38⟩,
    ⟨99, 99, .st 38⟩],
  [⟨33, 33, .st 21⟩, ⟨35, 39, .st 21⟩, ⟨42, 43, .st 21⟩, ⟨45, 46, .st 21⟩, ⟨48, 57, .st 21⟩,
    ⟨58, 58, .tr 39⟩, ⟨65, 75, .st 21⟩, ⟨76, 76, .st 91⟩, ⟨77, 78, .st 21⟩, ⟨79, 79, .st 26⟩,
    ⟨80, 90, .st 21⟩, ⟨94, 107, .st 21⟩, ⟨108, 108, .st 91⟩, ⟨109, 110, .st 21⟩,
    ⟨111, 111, .st 26⟩, ⟨112, 122, .st 21⟩, ⟨124, 124, .st 21⟩, ⟨126, 126, .st 21⟩],
  [⟨33, 33, .st 21⟩, ⟨35, 39, .st 21⟩, ⟨42, 43, .st 21⟩, ⟨45, 46, .st 21⟩, ⟨48, 57, .st 21⟩,
    ⟨58, 58, .tr 39⟩, ⟨65, 78, .st 21⟩, ⟨79, 79, .st 92⟩, ⟨80, 90, .st 21⟩, ⟨94, 110, .st 21⟩,
    ⟨111, 111, .st 92⟩, ⟨112, 122, .st 21⟩, ⟨124, 124, .st 21⟩, ⟨126, 126, .st 21⟩],
  [⟨33, 33, .st 21⟩, ⟨35, 39, .st 21⟩, ⟨42, 43, .st 21⟩, ⟨45, 46, .st 21⟩, ⟨48, 57, .st 21⟩,
    ⟨58, 58, .tr 39⟩, ⟨65, 82, .st 21⟩, ⟨83, 83, .st 93⟩, ⟨84, 90, .st 21⟩, ⟨94, 114, .st 21⟩,
    ⟨115, 115, .st 93⟩, ⟨116, 122, .st 21⟩, ⟨124, 124, .st 21⟩, ⟨126, 126, .st 21⟩],
  [⟨33, 33, .st 21⟩, ⟨35, 39, .st 21⟩, ⟨42, 43, .st 21⟩, ⟨45, 46, .st 21⟩, ⟨48, 57, .st 21⟩,
    ⟨58, 58, .tr 39⟩, ⟨65, 68, .st 21⟩, ⟨69, 69, .st 94⟩, ⟨70, 90, .st 21⟩, ⟨94, 100, .st 21⟩,
    ⟨101, 101, .st 94⟩, ⟨102, 122, .st 21⟩, ⟨124, 124, .st 21⟩, ⟨126, 126, .st 21⟩],
  [⟨10, 10, .st 43⟩, ⟨13, 13, .st 88⟩, ⟨33, 33, .st 21⟩, ⟨35, 39, .st 21⟩, ⟨42, 43, .st 21⟩,
    ⟨45, 46, .st 21⟩, ⟨48, 57, .st 21⟩, ⟨58, 58, .tr 39⟩, ⟨65, 90, .st 21⟩, ⟨94, 122, .st 21⟩,
    ⟨124, 124, .st 21⟩, ⟨126, 126, .st 21⟩],
  [⟨9, 9, .st 37⟩, ⟨10, 10, .st 36⟩, ⟨11, 13, .st 37⟩, ⟨32, 32, .st 37⟩, ⟨67, 67, .st 38⟩,
    ⟨99, 99, .st 38⟩],
  [⟨0, 9, .st 23⟩, ⟨10, 10, .tr 45⟩, ⟨11, 12, .st 23⟩, ⟨13, 13, .tr 46⟩, ⟨14, 75, .st 23⟩,
    ⟨76, 76, .st 97⟩, ⟨77, 107, .st 23⟩, ⟨108, 108, .st 97⟩, ⟨109, 255, .st 23⟩],
  [⟨0, 9, .st 23⟩, ⟨10, 10, .tr 45⟩, ⟨11, 12, .st 23⟩, ⟨13, 13, .tr 46⟩, ⟨14, 78, .st 23⟩,
    ⟨79, 79, .st 98⟩, ⟨80, 110, .st 23⟩, ⟨111, 111, .st 98⟩, ⟨112, 255, .st 23⟩],
  [⟨0, 9, .st 23⟩, ⟨10, 10, .tr 45⟩, ⟨11, 12, .st 23⟩, ⟨13, 13, .tr 46⟩, ⟨14, 82, .st 23⟩,
    ⟨83, 83, .st 99⟩, ⟨84, 114, .st 23⟩, ⟨115, 115, .st 99⟩, ⟨116, 255, .st 23⟩],
  [⟨0, 9, .st 23⟩, ⟨10, 10, .tr 45⟩, ⟨11, 12, .st 23⟩, ⟨13, 13, .tr 46⟩, ⟨14, 68, .st 23⟩,
    ⟨69, 69, .st 100⟩, ⟨70, 100, .st 23⟩, ⟨101, 101, .st 100⟩, ⟨102, 255, .st 23⟩],
  [⟨0, 9, .st 23⟩, ⟨10, 10, .tr 136⟩, ⟨11, 12, .st 23⟩, ⟨13, 13, .tr 137⟩, ⟨14, 255, .st 23⟩],
  [⟨33, 33, .st 21⟩, ⟨35, 39, .st 21⟩, ⟨42, 43, .st 21⟩, ⟨45, 46, .st 21⟩, ⟨48, 57, .st 21⟩,
    ⟨58, 58, .tr 39⟩, ⟨65, 68, .st 21⟩, ⟨69, 69, .st 102⟩, ⟨70, 90, .st 21⟩, ⟨94, 100, .st 21⟩,
    ⟨101, 101, .st 102⟩, ⟨102, 122, .st 21⟩, ⟨124, 124, .st 21⟩, ⟨126, 126, .st 21⟩],
  [⟨33, 33, .st 21⟩, ⟨35, 39, .st 21⟩, ⟨42, 43, .st 21⟩, ⟨45, 46, .st 21⟩, ⟨48, 57, .st 21⟩,
    ⟨58, 58, .tr 39⟩, ⟨65, 77, .st 21⟩, ⟨78, 78, .st 103⟩, ⟨79, 90, .st 21⟩, ⟨94, 109, .st 21⟩,
    ⟨110, 110, .st 103⟩, ⟨111, 122, .st 21⟩, ⟨124, 124, .st 21⟩, ⟨126, 126, .st 21⟩],
  [⟨33, 33, .st 21⟩, ⟨35, 39, .st 21⟩, ⟨42, 43, .st 21⟩, ⟨45, 46, .st 21⟩, ⟨48, 57, .st 21⟩,
    ⟨58, 58, .tr 39⟩, ⟨65, 83, .st 21⟩, ⟨84, 84, .st 104⟩, ⟨85, 90, .st 21⟩, ⟨94, 115, .st 21⟩,
    ⟨116, 116, .st 104⟩, ⟨117, 122, .st 21⟩, ⟨124, 124, .st 21⟩, ⟨126, 126, .st 21⟩],
  [⟨33, 33, .st 21⟩, ⟨35, 39, .st 21⟩, ⟨42, 43, .st 21⟩, ⟨45, 45, .st 105⟩, ⟨46, 46, .st 21⟩,
    ⟨48, 57, .st 21⟩, ⟨58, 58, .tr 39⟩, ⟨65, 90, .st 21⟩, ⟨94, 122, .st 21⟩, ⟨124, 124, .st 21⟩,
    ⟨126, 126, .st 21⟩],
  [⟨33, 33, .st 21⟩, ⟨35, 39, .st 21⟩, ⟨42, 43, .st 21⟩, ⟨45, 46, .st 21⟩, ⟨48, 57, .st 21⟩,
    ⟨58, 58, .tr 39⟩, ⟨65, 75, .st 21⟩, ⟨76, 76, .st 106⟩, ⟨77, 90, .st 21⟩, ⟨94, 107, .st 21⟩,
    ⟨108, 108, .st 106⟩, ⟨109, 122, .st 21⟩, ⟨124, 124, .st 21⟩, ⟨126, 126, .st 21⟩],
  [⟨33, 33, .st 21⟩, ⟨35, 39, .st 21⟩, ⟨42, 43, .st 21⟩, ⟨45, 46, .st 21⟩, ⟨48, 57, .st 21⟩,
    ⟨58, 58, .tr 39⟩, ⟨65, 68, .st 21⟩, ⟨69, 69, .st 107⟩, ⟨70, 90, .st 21⟩, ⟨94, 100, .st 21⟩,
    ⟨101, 101, .st 107⟩, ⟨102, 122, .st 21⟩, ⟨124, 124, .st 21⟩, ⟨126, 126, .st 21⟩],
  [⟨33, 33, .st 21⟩, ⟨35, 39, .st 21⟩, ⟨42, 43, .st 21⟩, ⟨45, 46, .st 21⟩, ⟨48, 57, .st 21⟩,
    ⟨58, 58, .tr 39⟩, ⟨65, 77, .st 21⟩, ⟨78, 78, .st 108⟩, ⟨79, 90, .st 21⟩, ⟨94, 109, .st 21⟩,
    ⟨110, 110, .st 108⟩, ⟨111, 122, .st 21⟩, ⟨124, 124, .st 21⟩, ⟨126, 126, .st 21⟩],
  [⟨33, 33, .st 21⟩, ⟨35, 39, .st 21⟩, ⟨42, 43, .st 21⟩, ⟨45, 46, .st 21⟩, ⟨48, 57, .st 21⟩,
    ⟨58, 58, .tr 39⟩, ⟨65, 70, .st 21⟩, ⟨71, 71, .st 109⟩, ⟨72, 90, .st 21⟩, ⟨94, 102, .st 21⟩,
    ⟨103, 103, .st 109⟩, ⟨104, 122, .st 21⟩, ⟨124, 124, .st 21⟩, ⟨126, 126, .st 21⟩],
  [⟨33, 33, .st 21⟩, ⟨35, 39, .st 21⟩, ⟨42, 43, .st 21⟩, ⟨45, 46, .st 21⟩, ⟨48, 57, .st 21⟩,
    ⟨58, 58, .tr 39⟩, ⟨65, 83, .st 21⟩, ⟨84, 84, .st 110⟩, ⟨85, 90, .st 21⟩, ⟨94, 115, .st 21⟩,
    ⟨116, 116, .st 110⟩, ⟨117, 122, .st 21⟩, ⟨124, 124, .st 21⟩, ⟨126, 126, .st 21⟩],
  [⟨33, 33, .st 21⟩, ⟨35, 39, .st 21⟩, ⟨42, 43, .st 21⟩, ⟨45, 46, .st 21⟩, ⟨48, 57, .st 21⟩,
    ⟨58, 58, .tr 39⟩, ⟨65, 71, .st 21⟩, ⟨72, 72, .st 111⟩, ⟨73, 90, .st 21⟩, ⟨94, 103, .st 21⟩,
    ⟨104, 104, .st 111⟩, ⟨105, 122, .st 21⟩, ⟨124, 124, .st 21⟩, ⟨126, 126, .st 21⟩],
  [⟨33, 33, .st 21⟩, ⟨35, 39, .st 21⟩, ⟨42, 43, .st 21⟩, ⟨45, 46, .st 21⟩, ⟨48, 57, .st 21⟩,
    ⟨58, 58, .tr 148⟩, ⟨65, 90, .st 21⟩, ⟨94, 122, .st 21⟩, ⟨124, 124, .st 21⟩,
    ⟨126, 126, .st 21⟩],
  [⟨0, 8, .tr 40⟩, ⟨9, 9, .tr 149⟩, ⟨10, 10, .tr 150⟩, ⟨11, 12, .tr 149⟩, ⟨13, 13, .tr 151⟩,
    ⟨14, 31, .tr 40⟩, ⟨32, 32, .tr 149⟩, ⟨33, 47, .tr 40⟩, ⟨48, 57, .tr 152⟩, ⟨58, 255, .tr 40⟩],
  [⟨9, 9, .st 114⟩, ⟨10, 10, .tr 154⟩, ⟨11, 12, .st 114⟩, ⟨13, 13, .st 116⟩, ⟨32, 32, .st 114⟩,
    ⟨33, 33, .tr 35⟩, ⟨35, 39, .tr 35⟩, ⟨42, 43, .tr 35⟩, ⟨45, 46, .tr 35⟩, ⟨48, 57, .tr 156⟩,
    ⟨65, 66, .tr 35⟩, ⟨67, 67, .tr 36⟩, ⟨68, 83, .tr 35⟩, ⟨84, 84, .tr 37⟩, ⟨85, 90, .tr 35⟩,
    ⟨94, 98, .tr 35⟩, ⟨99, 99, .tr 36⟩, ⟨100, 115, .tr 35⟩, ⟨116, 116, .tr 37⟩,
    ⟨117, 122, .tr 35⟩, ⟨124, 124, .tr 35⟩, ⟨126, 126, .tr 35⟩],
  [⟨9, 13, .st 114⟩, ⟨32, 32, .st 114⟩, ⟨48, 57, .tr 157⟩],
  [⟨10, 10, .tr 158⟩, ⟨13, 13, .tr 159⟩, ⟨48, 57, .st 115⟩],
  [⟨9, 9, .st 114⟩, ⟨10, 10, .tr 154⟩, ⟨11, 13, .st 114⟩, ⟨32, 32, .st 114⟩, ⟨48, 57, .tr 157⟩],
  [⟨10, 10, .tr 158⟩, ⟨13, 13, .tr 159⟩, ⟨33, 33, .st 21⟩, ⟨35, 39, .st 21⟩, ⟨42, 43, .st 21⟩,
    ⟨45, 46, .st 21⟩, ⟨48, 57, .st 117⟩, ⟨58, 58, .tr 39⟩, ⟨65, 90, .st 21⟩, ⟨94, 122, .st 21⟩,
    ⟨124, 124, .st 21⟩, ⟨126, 126, .st 21⟩],
  [⟨9, 9, .st 114⟩, ⟨10, 10, .st 113⟩, ⟨11, 13, .st 114⟩, ⟨32, 32, .st 114⟩, ⟨48, 57, .tr 157⟩],
  [⟨0, 9, .st 23⟩, ⟨10, 10, .tr 158⟩, ⟨11, 12, .st 23⟩, ⟨13, 13, .tr 159⟩, ⟨14, 47, .st 23⟩,
    ⟨48, 57, .st 119⟩, ⟨58, 255, .st 23⟩],
  [],
  [⟨9, 13, .st 63⟩, ⟨32, 32, .st 63⟩, ⟨67, 67, .tr 104⟩, ⟨99, 99, .tr 104⟩],
  [⟨9, 13, .st 37⟩, ⟨32, 32, .st 37⟩, ⟨67, 67, .st 38⟩, ⟨99, 99, .st 38⟩],
  [⟨9, 13, .st 114⟩, ⟨32, 32, .st 114⟩, ⟨48, 57, .tr 157⟩]]

def trans : Nat → UInt8 → Option (Trans Act) := tableTrans rows tr

end Response
end Http
end KitServer
