import DeviceInventory.Bson.Path
import DeviceInventory.Bson.Document
import DeviceInventory.Mongo.Query
import DeviceInventory.Mongo.Update
import DeviceInventory.Mongo.Collection
import DeviceInventory.Mongo.Frame
import DeviceInventory.Mongo.Aggregate
import DeviceInventory.Mongo.Find
import DeviceInventory.Mongo.Unwind
import DeviceInventory.Store.Model
import DeviceInventory.Store.Attributes
import DeviceInventory.Store.Merge
import DeviceInventory.Store.Devices
import DeviceInventory.Store.Groups
import DeviceInventory.Store.Invariants
import DeviceInventory.Store.Search
import DeviceInventory.Store.AttributeNames
import DeviceInventory.Store.Inventory
import DeviceInventory.Store.Commute
import DeviceInventory.Store.Records
import DeviceInventory.Store.Reads
import DeviceInventory.Store.Isolation
import DeviceInventory.Store.Clock
import DeviceInventory.Store.Bulk
import DeviceInventory.Mongo.Replay
import DeviceInventory.Store.Redelivery
import DeviceInventory.Store.Listings
import DeviceInventory.Store.Catalogue
import DeviceInventory.Store.Replies
