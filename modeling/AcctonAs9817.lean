import AcctonAs9817.Python.Str
import AcctonAs9817.Python.Lex
import AcctonAs9817.Util.Host
import AcctonAs9817.Util.Retimer
import AcctonAs9817.Util.RetimerScript
import AcctonAs9817.Util.Driver
import AcctonAs9817.Util.Ipmi
import AcctonAs9817.Util.I2cTree
import AcctonAs9817.Util.RetimerMux
import AcctonAs9817.Util.RetimerTaps
import AcctonAs9817.Util.Device
import AcctonAs9817.Util.Install
import AcctonAs9817.Util.InstallRuns
import AcctonAs9817.Util.InstallCycle
import AcctonAs9817.Util.Threshold
import AcctonAs9817.Util.ThermalProgram
import AcctonAs9817.Util.ThresholdOrder
import AcctonAs9817.SonicPlatform.Sfp
import AcctonAs9817.SonicPlatform.SfpControl
import AcctonAs9817.SonicPlatform.SfpErrors
