/-!
The modules that every client carries: the base class of business objects and those of forms. They
are the same for every design.
-/

namespace Blueprint.Client.Runtime

/-- The base class of business objects. -/
def businessObjectBase : List String := [
  "import \x7b DestroyRef \x7d from '@angular/core';",
  "import \x7b HttpClient, HttpParams \x7d from '@angular/common/http';",
  "import \x7b firstValueFrom \x7d from 'rxjs';",
  "",
  "export interface QueryFilter \x7b",
  "  where?: Record<string, unknown>;",
  "  include?: unknown;",
  "  order?: string | string[];",
  "  limit?: number;",
  "  offset?: number;",
  "\x7d",
  "",
  "export class BusinessObjectBase \x7b",
  "  static httpClient: HttpClient;",
  "  static baseUrl = '/api';",
  "  static entityName = '';",
  "  static plural = '';",
  "  static idField = 'id';",
  "",
  "  static configure(httpClient: HttpClient): void \x7b",
  "    BusinessObjectBase.httpClient = httpClient;",
  "  \x7d",
  "",
  "  constructor(data: any) \x7b",
  "    Object.assign(this, data);",
  "  \x7d",
  "",
  "  static collectionUrl(): string \x7b",
  "    return `$\x7bBusinessObjectBase.baseUrl\x7d/$\x7bthis.plural\x7d`;",
  "  \x7d",
  "",
  "  static filterParams(filter?: QueryFilter): Record<string, string> \x7b",
  "    return filter ? \x7b filter: JSON.stringify(filter) \x7d : \x7b\x7d;",
  "  \x7d",
  "",
  "  static queryParams(values: Record<string, unknown>): Record<string, string> \x7b",
  "    const params: Record<string, string> = \x7b\x7d;",
  "    for (const [key, value] of Object.entries(values)) \x7b",
  "      if (value !== undefined && value !== null) \x7b",
  "        params[key] = typeof value === 'string' ? value : JSON.stringify(value);",
  "      \x7d",
  "    \x7d",
  "    return params;",
  "  \x7d",
  "",
  "  /**",
  "   * Save the value returned by `source` whenever its content changes.",
  "   * Polling stops when `destroyRef` is destroyed.",
  "   */",
  "  static autoSave(",
  "    source: () => BusinessObjectBase | BusinessObjectBase[] | undefined,",
  "    destroyRef: DestroyRef,",
  "    intervalMs = 1000,",
  "  ): void \x7b",
  "    let last = JSON.stringify(source() ?? null);",
  "    let saving = false;",
  "    const timer = setInterval(async () => \x7b",
  "      const value = source();",
  "      const current = JSON.stringify(value ?? null);",
  "      if (saving || current === last) return;",
  "      saving = true;",
  "      try \x7b",
  "        const items = Array.isArray(value) ? value : value ? [value] : [];",
  "        for (const item of items) \x7b",
  "          await item.save();",
  "        \x7d",
  "        last = current;",
  "      \x7d finally \x7b",
  "        saving = false;",
  "      \x7d",
  "    \x7d, intervalMs);",
  "    destroyRef.onDestroy(() => clearInterval(timer));",
  "  \x7d",
  "",
  "  async save(): Promise<this> \x7b",
  "    const type = this.constructor as typeof BusinessObjectBase;",
  "    const id = (this as any)[type.idField];",
  "    const url = `$\x7btype.collectionUrl()\x7d/$\x7bid\x7d`;",
  "    const \x7b [type.idField]: _, ...data \x7d = this as any;",
  "    const saved = await BusinessObjectBase.patch<any>(url, data);",
  "    Object.assign(this, saved);",
  "    return this;",
  "  \x7d",
  "",
  "  protected static get<T>(url: string, params?: Record<string, string>): Promise<T> \x7b",
  "    let httpParams = new HttpParams();",
  "    if (params) \x7b",
  "      for (const [key, value] of Object.entries(params)) \x7b",
  "        httpParams = httpParams.set(key, value);",
  "      \x7d",
  "    \x7d",
  "    return firstValueFrom(this.httpClient.get<T>(url, \x7b params: httpParams \x7d));",
  "  \x7d",
  "",
  "  protected static post<T>(url: string, body: any): Promise<T> \x7b",
  "    return firstValueFrom(this.httpClient.post<T>(url, body));",
  "  \x7d",
  "",
  "  protected static put<T>(url: string, body: any): Promise<T> \x7b",
  "    return firstValueFrom(this.httpClient.put<T>(url, body));",
  "  \x7d",
  "",
  "  protected static patch<T>(url: string, body: any): Promise<T> \x7b",
  "    return firstValueFrom(this.httpClient.patch<T>(url, body));",
  "  \x7d",
  "",
  "  protected static del<T>(url: string, params?: Record<string, string>): Promise<T> \x7b",
  "    return firstValueFrom(this.httpClient.delete<T>(url, \x7b params \x7d));",
  "  \x7d",
  "\x7d",
  ""]

/-- The base classes of forms. -/
def formBase : List String := [
  "import \x7b DestroyRef \x7d from '@angular/core';",
  "import \x7b takeUntilDestroyed \x7d from '@angular/core/rxjs-interop';",
  "import \x7b AbstractControl, FormArray, FormControl, FormGroup \x7d from '@angular/forms';",
  "import \x7b debounceTime, filter \x7d from 'rxjs';",
  "",
  "import \x7b QueryFilter \x7d from './base';",
  "",
  "export interface EntityClass<T = any> \x7b",
  "  find(filter?: QueryFilter): Promise<T[]>;",
  "  findById(id: any, filter?: QueryFilter): Promise<T>;",
  "  create(data: any): Promise<T>;",
  "  updateById(id: any, data: any): Promise<T>;",
  "  deleteById(id: any): Promise<boolean>;",
  "\x7d",
  "",
  "/** Nested controls built when loaded data carries the relationship. */",
  "export type RelationFactories = Record<string, () => AbstractControl>;",
  "",
  "export interface PersistedFormGroupOptions \x7b",
  "  filter?: QueryFilter;",
  "\x7d",
  "",
  "export interface PersistedFormArrayOptions \x7b",
  "  filter?: QueryFilter;",
  "\x7d",
  "",
  "export interface PersistedArrayOptions \x7b",
  "  filter?: QueryFilter;",
  "\x7d",
  "",
  "export class PersistedFormGroup extends FormGroup \x7b",
  "  reading = false;",
  "  saving = false;",
  "  readFilter: QueryFilter;",
  "  private original: Record<string, unknown> = \x7b\x7d;",
  "  private pendingSave: Promise<unknown> | null = null;",
  "",
  "  constructor(",
  "    controls: Record<string, AbstractControl>,",
  "    protected entityClass: EntityClass,",
  "    protected relations: RelationFactories = \x7b\x7d,",
  "    options?: PersistedFormGroupOptions,",
  "    protected idProperty = 'id',",
  "  ) \x7b",
  "    super(controls);",
  "    this.readFilter = options?.filter ?? \x7b\x7d;",
  "  \x7d",
  "",
  "  get hasUnsavedChanges(): boolean \x7b",
  "    return Object.keys(this.changes()).length > 0;",
  "  \x7d",
  "",
  "  async read(query?: QueryFilter): Promise<void> \x7b",
  "    if (this.pendingSave) await this.pendingSave;",
  "    if (query) this.readFilter = \x7b ...this.readFilter, ...query \x7d;",
  "    const id = this.readFilter.where?.[this.idProperty];",
  "    this.reading = true;",
  "    try \x7b",
  "      this.load(await this.entityClass.findById(id, this.readFilter));",
  "    \x7d finally \x7b",
  "      this.reading = false;",
  "    \x7d",
  "  \x7d",
  "",
  "  /** Patch `data` in, nested relationships included, and mark it as saved. */",
  "  load(data: Record<string, any>): void \x7b",
  "    for (const [name, factory] of Object.entries(this.relations)) \x7b",
  "      if (data[name] === undefined || data[name] === null) continue;",
  "      if (!this.contains(name)) this.setControl(name, factory(), \x7b emitEvent: false \x7d);",
  "      const control = this.get(name);",
  "      if (control instanceof PersistedFormArray || control instanceof PersistedFormGroup) \x7b",
  "        control.load(data[name]);",
  "      \x7d",
  "    \x7d",
  "    const scalars = Object.fromEntries(Object.entries(data).filter(([name]) => !(name in this.relations)));",
  "    this.patchValue(scalars, \x7b emitEvent: false \x7d);",
  "    this.original = this.scalarValue();",
  "  \x7d",
  "",
  "  scalarValue(): Record<string, unknown> \x7b",
  "    const value: Record<string, unknown> = \x7b\x7d;",
  "    for (const [name, control] of Object.entries(this.controls)) \x7b",
  "      if (control instanceof FormControl) value[name] = control.value;",
  "    \x7d",
  "    return value;",
  "  \x7d",
  "",
  "  changes(): Record<string, unknown> \x7b",
  "    return Object.fromEntries(",
  "      Object.entries(this.scalarValue()).filter(([name, value]) => value !== this.original[name]),",
  "    );",
  "  \x7d",
  "",
  "  async save(): Promise<any> \x7b",
  "    this.saving = true;",
  "    this.pendingSave = this.persist();",
  "    try \x7b",
  "      return await this.pendingSave;",
  "    \x7d finally \x7b",
  "      this.pendingSave = null;",
  "      this.saving = false;",
  "    \x7d",
  "  \x7d",
  "",
  "  private async persist(): Promise<any> \x7b",
  "    const id = this.get(this.idProperty)?.value;",
  "    if (id === null || id === undefined) \x7b",
  "      const \x7b [this.idProperty]: _, ...payload \x7d = this.scalarValue();",
  "      const created = await this.entityClass.create(payload);",
  "      this.load(created);",
  "      return created;",
  "    \x7d",
  "    const changes = this.changes();",
  "    if (Object.keys(changes).length === 0) return null;",
  "    const updated = await this.entityClass.updateById(id, changes);",
  "    this.load(updated);",
  "    return updated;",
  "  \x7d",
  "",
  "  /** Save after edits settle, and once more when `destroyRef` is destroyed. */",
  "  autoSave(destroyRef: DestroyRef, debounceMs = 300): void \x7b",
  "    this.valueChanges",
  "      .pipe(",
  "        debounceTime(debounceMs),",
  "        filter(() => this.hasUnsavedChanges && !this.saving && !this.reading),",
  "        takeUntilDestroyed(destroyRef),",
  "      )",
  "      .subscribe(() => void this.save());",
  "    destroyRef.onDestroy(() => \x7b",
  "      if (this.hasUnsavedChanges && !this.saving) void this.save();",
  "    \x7d);",
  "  \x7d",
  "\x7d",
  "",
  "export class PersistedFormArray<G extends PersistedFormGroup = PersistedFormGroup> extends FormArray<G> \x7b",
  "  reading = false;",
  "  readFilter: QueryFilter;",
  "",
  "  constructor(",
  "    protected itemFactory: () => G,",
  "    protected entityClass: EntityClass,",
  "    options?: PersistedFormArrayOptions,",
  "    protected idProperty = 'id',",
  "  ) \x7b",
  "    super([]);",
  "    this.readFilter = options?.filter ?? \x7b\x7d;",
  "  \x7d",
  "",
  "  async read(query?: QueryFilter): Promise<void> \x7b",
  "    if (query) this.readFilter = \x7b ...this.readFilter, ...query \x7d;",
  "    this.reading = true;",
  "    try \x7b",
  "      this.load(await this.entityClass.find(this.readFilter));",
  "    \x7d finally \x7b",
  "      this.reading = false;",
  "    \x7d",
  "  \x7d",
  "",
  "  load(items: Record<string, any>[]): void \x7b",
  "    this.clear(\x7b emitEvent: false \x7d);",
  "    for (const item of items) \x7b",
  "      this.push(this.group(item), \x7b emitEvent: false \x7d);",
  "    \x7d",
  "  \x7d",
  "",
  "  async add(data: Record<string, any> = \x7b\x7d): Promise<any> \x7b",
  "    const created = await this.entityClass.create(data);",
  "    this.push(this.group(created));",
  "    return created;",
  "  \x7d",
  "",
  "  async remove(index: number): Promise<void> \x7b",
  "    const id = this.at(index)?.get(this.idProperty)?.value;",
  "    if (id !== null && id !== undefined) \x7b",
  "      await this.entityClass.deleteById(id);",
  "    \x7d",
  "    this.removeAt(index);",
  "  \x7d",
  "",
  "  private group(data: Record<string, any>): G \x7b",
  "    const group = this.itemFactory();",
  "    group.load(data);",
  "    return group;",
  "  \x7d",
  "\x7d",
  "",
  "export class PersistedArray<T = any> extends Array<T> \x7b",
  "  static get [Symbol.species]() \x7b",
  "    return Array;",
  "  \x7d",
  "",
  "  reading = false;",
  "  readFilter: QueryFilter;",
  "",
  "  constructor(",
  "    private entityClass: EntityClass<T>,",
  "    options?: PersistedArrayOptions,",
  "    private idProperty = 'id',",
  "  ) \x7b",
  "    super();",
  "    this.readFilter = options?.filter ?? \x7b\x7d;",
  "  \x7d",
  "",
  "  async read(query?: QueryFilter): Promise<void> \x7b",
  "    if (query) this.readFilter = \x7b ...this.readFilter, ...query \x7d;",
  "    this.reading = true;",
  "    try \x7b",
  "      const items = await this.entityClass.find(this.readFilter);",
  "      this.length = 0;",
  "      this.push(...items);",
  "    \x7d finally \x7b",
  "      this.reading = false;",
  "    \x7d",
  "  \x7d",
  "",
  "  async add(data: Partial<T> = \x7b\x7d): Promise<T> \x7b",
  "    const created = await this.entityClass.create(data);",
  "    this.push(created);",
  "    return created;",
  "  \x7d",
  "",
  "  async remove(index: number): Promise<void> \x7b",
  "    const id = (this[index] as any)?.[this.idProperty];",
  "    if (id !== null && id !== undefined) \x7b",
  "      await this.entityClass.deleteById(id);",
  "    \x7d",
  "    this.splice(index, 1);",
  "  \x7d",
  "\x7d",
  ""]

end Blueprint.Client.Runtime
