import LatheGloss.CodeBook.Basic

/-! Dialects: the codes that all machine models have in common, and the models with the codes
in which each differs. A code that begins with a zero is listed in both of its spellings.
-/

namespace LatheGloss.Dialect

def motionCodes : List (String × String) :=
  [
    ("G0", "早送り移動"),
    ("G00", "早送り移動"),
    ("G1", "直線補間"),
    ("G01", "直線補間"),
    ("G2", "円弧補間CW"),
    ("G02", "円弧補間CW"),
    ("G3", "円弧補間CCW"),
    ("G03", "円弧補間CCW"),
    ("G4", "ドウェル(一時停止)"),
    ("G04", "ドウェル(一時停止)"),
    ("G28", "原点復帰")
  ]

def setupCodes : List (String × String) :=
  [
    ("G50", "上限回転数設定/スケーリング解除(機種依存)"),
    ("G92", "座標/ねじ切り関係(機種依存)")
  ]

def modeCodes : List (String × String) :=
  [
    ("G94", "送り単位 毎分"),
    ("G95", "送り単位 毎回転"),
    ("G96", "定切削速度(CSS)"),
    ("G97", "回転数指定")
  ]

def cycleReturnCodes : List (String × String) :=
  [
    ("G98", "固定サイクル 復帰:初期位置"),
    ("G99", "固定サイクル 復帰:R点")
  ]

def flowCodes : List (String × String) :=
  [
    ("M0", "プログラム一時停止"),
    ("M00", "プログラム一時停止"),
    ("M1", "条件付停止"),
    ("M01", "条件付停止"),
    ("M2", "プログラム終了"),
    ("M02", "プログラム終了")
  ]

def spindleCodes : List (String × String) :=
  [
    ("M3", "主軸 正転"),
    ("M03", "主軸 正転"),
    ("M4", "主軸 逆転"),
    ("M04", "主軸 逆転"),
    ("M5", "主軸 停止"),
    ("M05", "主軸 停止")
  ]

def coolantCodes : List (String × String) :=
  [
    ("M8", "クーラント ON"),
    ("M08", "クーラント ON"),
    ("M9", "クーラント OFF"),
    ("M09", "クーラント OFF")
  ]

def machineDependentCodes : List (String × String) :=
  [
    ("M10", "チャック クランプ（機種依存）"),
    ("M11", "チャック アンクランプ（機種依存）"),
    ("M60", "バーフィーダ制御（機種依存）"),
    ("M61", "バーフィーダ制御（機種依存）"),
    ("M62", "バーフィーダ制御（機種依存）")
  ]

/-- The common codes with their descriptions. -/
def commonCodes : List (Text × Text) :=
  (motionCodes ++ setupCodes ++ modeCodes ++ cycleReturnCodes ++ flowCodes ++ spindleCodes
    ++ coolantCodes ++ machineDependentCodes).map fun (code, text) =>
      (.ofString code, .ofString text)

/-- The common layer. -/
def common : Layer :=
  .ofEntries commonCodes

/-- The known machine models. -/
def models : List Text :=
  [
    "B012-Ⅱ",
    "B012-Ⅲ",
    "B012-F",
    "B018-Ⅲ",
    "B0125",
    "B0125-Ⅱ",
    "B0125-Ⅲ",
    "BE12",
    "BE20-V",
    "BS12-Ⅲ",
    "BS18-Ⅲ"
  ]

/-- Each known model has the common codes and no others. -/
def overrides : Table (List (Text × Text)) :=
  .ofList (models.map (·, []))

/-- The layer of a model, given in which codes models differ. -/
def ofModel (overrides : Table (List (Text × Text))) (model : Text) : Layer :=
  .ofEntries ((overrides.get? model).getD [])

/-- The layers of all known models. -/
def modelLayers (overrides : Table (List (Text × Text))) : List (Text × Layer) :=
  models.map fun model => (model, ofModel overrides model)

/-- The code book of the common codes and all known models. -/
def codeBook : CodeBook :=
  .ofSupplement
    {
      base := common.entries,
      models := (modelLayers overrides).map fun (model, layer) => (model, layer.entries)
    }

end LatheGloss.Dialect
