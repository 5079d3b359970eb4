import LibDCBridge.World
import LibDCBridge.Catalog
import LibDCBridge.Strings
import LibDCBridge.NamePatterns
import LibDCBridge.Identify
import LibDCBridge.SerialKey
import LibDCBridge.Bytes
import LibDCBridge.Stream
import LibDCBridge.Session
import LibDCBridge.Open
import LibDCBridge.Agreement
import LibDCBridge.Run
import LibDCBridge.Selection
import LibDCBridge.Reports
